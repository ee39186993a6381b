import GraphicsBuffers.Text.Words
import Mathlib.Data.List.TakeWhile
/-!
# Words of a line

The second word is found by skipping blanks and what is between them, and the first line without the carriage
return at its end. Both come to a plain reading: the words are the parts between blanks that are not
empty (`secondWord_eq`), and a carriage return is a blank (`words_firstLine`).
-/

namespace GraphicsBuffers.Text

/-- The words of a text: what stands between blanks. -/
def words (text : List Char) : List (List Char) := (text.splitOnP isBlank).filter (!·.isEmpty)

theorem words_blank {c : Char} (blank : isBlank c) (text : List Char) : words (c :: text) = words text := by
  simp [words, List.splitOnP_cons_eq_if_modifyHead, blank]

theorem words_dropWhile (text : List Char) : words (text.dropWhile isBlank) = words text := by
  induction text with
  | nil => rfl
  | cons c text ih =>
    by_cases blank : isBlank c
    · rw [List.dropWhile_cons_of_pos blank, ih, words_blank blank]
    · rw [List.dropWhile_cons_of_neg blank]

/-- A blank at the end of a text separates nothing. -/
theorem words_append_blank {c : Char} (blank : isBlank c) (text : List Char) :
    words (text ++ [c]) = words text := by
  have split : (text ++ [c]).splitOnP isBlank = text.splitOnP isBlank ++ [[]] := by
    induction text with
    | nil => simp [List.splitOnP_cons_eq_if_modifyHead, blank]
    | cons a text ih =>
      rw [List.cons_append, List.splitOnP_cons_eq_if_modifyHead, ih, List.splitOnP_cons_eq_if_modifyHead]
      split
      · rfl
      · rcases parts : text.splitOnP isBlank with _ | ⟨part, parts⟩
        · exact absurd parts (List.splitOnP_ne_nil _ _)
        · rfl
  simp [words, split]

/-- A word that is followed by a blank, or by nothing, is the first. -/
theorem words_append {word rest : List Char} (nonempty : word ≠ []) (solid : ∀ c ∈ word, isBlank c = false)
    (ends : ∀ c ∈ rest.head?, isBlank c) : words (word ++ rest) = word :: words rest := by
  rcases rest with _ | ⟨c, rest⟩
  · simp [words, List.splitOnP_eq_singleton solid, nonempty]
  · rw [words_blank (ends c rfl)]
    simp [words, List.splitOnP_append_cons_of_forall_mem solid c (ends c rfl), nonempty]

/-- What is found first is the first word, and the words of what follows are the others. -/
theorem nextWord_eq (text : List Char) :
    (nextWord? text).elim (words text = []) fun (word, rest) => words text = word :: words rest := by
  unfold nextWord?
  rw [← words_dropWhile]
  have stop := List.head?_dropWhile_not isBlank text
  rcases start : text.dropWhile isBlank with _ | ⟨c, others⟩
  · rfl
  rw [start] at stop
  have solid : isBlank c = false := stop
  have parts := List.takeWhile_append_dropWhile (p := (!isBlank ·)) (l := c :: others)
  refine (congrArg words parts.symm).trans (words_append ?_ ?_ ?_)
  · simp [solid]
  · intro a mem
    simpa using List.mem_takeWhile_imp mem
  · intro a mem
    have stop := List.head?_dropWhile_not (!isBlank ·) (c :: others)
    rw [Option.mem_def.1 mem] at stop
    simpa using stop

theorem secondWord_eq (text : List Char) : secondWord? text = (words text)[1]? := by
  have first := nextWord_eq text
  unfold secondWord?
  rcases found : nextWord? text with _ | ⟨word, rest⟩ <;> rw [found] at first
  · rw [show words text = [] from first]
    rfl
  have second := nextWord_eq rest
  rw [show words text = _ from first]
  rcases found' : nextWord? rest with _ | ⟨word', rest'⟩ <;> rw [found'] at second
  · simp [show words rest = [] from second, found']
  · simp [show words rest = _ from second, found']

/-- A carriage return at the end of a line is a blank, and so is no matter to its words. -/
theorem words_firstLine {text line : List Char} (first : firstLine? text = some line) :
    words line = words (text.takeWhile (· != '\n')) := by
  unfold firstLine? at first
  split at first
  · cases first
  · dsimp only at first
    split at first <;> cases first
    · next ended =>
      generalize text.takeWhile (· != '\n') = line at ended
      obtain ⟨-, last⟩ := Bool.and_eq_true_iff.1 ended
      have last : line.getLast? = some '\r' := by simpa using last
      obtain ⟨start, rfl⟩ := List.getLast?_eq_some_iff.1 last
      rw [List.dropLast_concat, words_append_blank (by decide)]
    · rfl

end GraphicsBuffers.Text
