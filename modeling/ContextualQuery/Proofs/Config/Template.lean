import ContextualQuery.Config.Document
import ContextualQuery.Config.Template
import ContextualQuery.Proofs.Toml.Lines

/-!
# A commented file says nothing

Whatever the lines of a text are, a file in which they are commented out is read and has no settings:
each of its lines is empty or a comment. So the template of a settings file leaves everything open.
-/

namespace ContextualQuery.Config

variable {line : String} {lines : List String}

/-- A line that is commented out is empty or a comment, and it has no new characters but printable
ones. -/
theorem commentLine_shape (printable : ∀ c ∈ line.toList, Toml.isPrintable c = true) :
    (commentLine line).toList = [] ∨
      ∃ chars, (commentLine line).toList = '#' :: chars ∧ ∀ c ∈ chars, Toml.isPrintable c = true := by
  unfold commentLine
  split
  case isTrue silent =>
    cases shape : line.toList with
    | nil => exact .inl rfl
    | cons c chars =>
      have isComment : c = '#' := by
        simpa [String.isEmpty_iff, ← String.toList_eq_nil_iff, shape] using silent
      rw [shape] at printable
      exact .inr ⟨chars, by rw [isComment], fun c member => printable c (.tail _ member)⟩
  case isFalse =>
    have behind : ∀ c ∈ ' ' :: line.toList, Toml.isPrintable c = true :=
      List.forall_mem_cons.mpr ⟨by decide, printable⟩
    exact .inr ⟨' ' :: line.toList, by simp, behind⟩

/-- Lines without controls say nothing once they are commented out. -/
theorem lines_commented (printable : ∀ line ∈ lines, ∀ c ∈ line.toList, Toml.isPrintable c = true) :
    Toml.Lines (lines.flatMap fun line => (commentLine line).toList ++ ['\n']) [] := by
  induction lines with
  | nil => exact .stop
  | cons line lines inductionHypothesis =>
    obtain ⟨first, others⟩ := List.forall_mem_cons.mp printable
    have behind := inductionHypothesis others
    rw [List.flatMap_cons, List.append_assoc, List.singleton_append]
    rcases commentLine_shape first with empty | ⟨chars, shape, printable⟩
    · rw [empty]
      exact .empty behind
    · rw [shape]
      exact .comment printable behind

/-- A text whose lines are commented out is a document without statements. -/
theorem readStatements?_commented
    (printable : ∀ line ∈ lines, ∀ c ∈ line.toList, Toml.isPrintable c = true) :
    Toml.readStatements? (String.join (lines.map fun line => commentLine line ++ "\n")) = some [] := by
  have text : (String.join (lines.map fun line => commentLine line ++ "\n")).toList =
      lines.flatMap fun line => (commentLine line).toList ++ ['\n'] := by
    simp [String.toList_join, List.flatMap_map]
  apply Toml.Lines.readStatements?
  · rw [text]
    exact lines_commented printable
  · rw [text]
    cases lines with
    | nil => simp
    | cons line lines =>
      obtain ⟨first, _⟩ := List.forall_mem_cons.mp printable
      rcases commentLine_shape first with empty | ⟨chars, shape, _⟩
      · simp [empty]
      · simp [shape]

/-- The template has no control characters, so it is a TOML text as it stands. -/
theorem printable_templateLines :
    ∀ line ∈ templateLines, ∀ c ∈ line.toList, Toml.isPrintable c = true := by
  have all : templateLines.all (fun line => line.toList.all Toml.isPrintable) = true := by
    decide +kernel
  intro line member
  exact List.all_eq_true.mp (List.all_eq_true.mp all line member)

/-- The template leaves every setting open. -/
theorem ofText?_template : FileSettings.ofText? template = some {} := by
  have statements : Toml.readStatements? template = some [] :=
    readStatements?_commented printable_templateLines
  rw [FileSettings.ofText?, Toml.read?, statements]
  rfl

end ContextualQuery.Config
