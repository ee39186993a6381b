import GraphicsBuffers.Main
import GraphicsBuffers.Session.Step
import GraphicsBuffers.Proofs.Locks
import GraphicsBuffers.Proofs.Balance
import GraphicsBuffers.Proofs.Leaks
import GraphicsBuffers.Proofs.Entries
import GraphicsBuffers.Proofs.Replies
import GraphicsBuffers.Proofs.Sharing
import GraphicsBuffers.Proofs.Teardown
import GraphicsBuffers.Proofs.Imports
import GraphicsBuffers.Proofs.Handles
import GraphicsBuffers.Proofs.Neighbours
import GraphicsBuffers.Proofs.Blame
import GraphicsBuffers.Proofs.Causes
import GraphicsBuffers.Proofs.Atomicity
import GraphicsBuffers.Proofs.Looks
import GraphicsBuffers.Proofs.Standing
import GraphicsBuffers.Proofs.Inquiries
import GraphicsBuffers.Proofs.OnceOnly
import GraphicsBuffers.Proofs.Layouts
import GraphicsBuffers.Proofs.Structures
import GraphicsBuffers.Proofs.PlaneBounds
import GraphicsBuffers.Proofs.Allocations
import GraphicsBuffers.Proofs.Scanout
import GraphicsBuffers.Proofs.Addresses
import GraphicsBuffers.Proofs.Grants
import GraphicsBuffers.Proofs.AllocationTests
import GraphicsBuffers.Proofs.DriverNames
import GraphicsBuffers.Proofs.Probing
import GraphicsBuffers.Proofs.Geometries
import GraphicsBuffers.Proofs.PixelStrides
import GraphicsBuffers.Proofs.Selection
