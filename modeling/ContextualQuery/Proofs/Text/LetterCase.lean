import ContextualQuery.Text.LetterCase

/-!
# Lower case

The lower case of a text is in lower case itself. The tables decide this: no image of a run lies on
a run or has an expansion, so a character of a lower-case form is mapped to itself, and none of them
is the capital sigma, whose form depends on its place. That no image of one run lies on another is
not checked point by point but on the ends and strides of the runs.
-/

namespace ContextualQuery.Text

namespace CaseRun

/-- The images of the run lie below or above all points of another run, or between them. -/
def avoids (run other : CaseRun) : Bool :=
  Nat.blt (run.image + (run.last - run.first)) other.first || Nat.blt other.last run.image ||
    ((Nat.beq run.first run.last || Nat.beq (run.stride % other.stride) 0) &&
      !Nat.beq (run.image % other.stride) (other.first % other.stride))

/-- The images of the run are points of characters other than a given one. -/
def avoidsPoint (run : CaseRun) (point : Nat) : Bool :=
  Nat.blt (run.image + (run.last - run.first)) point || Nat.blt point run.image

/-- The images of the run are points of characters. -/
def isValid (run : CaseRun) : Bool :=
  Nat.blt (run.image + (run.last - run.first)) 0xd800 ||
    (Nat.blt 0xdfff run.image && Nat.blt (run.image + (run.last - run.first)) 0x110000)

variable {run other : CaseRun} {point image : Nat}

/-- A run maps a point exactly if the point is on it, and then as far behind its first image as the
point is behind its first point. -/
theorem image?_eq_some_iff :
    run.image? point = some image ↔
      (run.first ≤ point ∧ point ≤ run.last ∧ (point - run.first) % run.stride = 0) ∧
        run.image + (point - run.first) = image := by
  rw [image?]
  split <;> simp_all

/-- A run maps no point that is not on it. -/
theorem image?_eq_none_iff :
    run.image? point = none ↔
      ¬ (run.first ≤ point ∧ point ≤ run.last ∧ (point - run.first) % run.stride = 0) := by
  rw [image?]
  split <;> simp_all

/-- What the ends and strides say holds of every image. -/
theorem image?_of_avoids (avoids : run.avoids other = true) (found : run.image? point = some image) :
    other.image? image = none := by
  obtain ⟨⟨first, last, step⟩, rfl⟩ := image?_eq_some_iff.mp found
  rw [image?_eq_none_iff]
  rintro ⟨otherFirst, otherLast, otherStep⟩
  simp only [CaseRun.avoids, Bool.or_eq_true, Bool.and_eq_true, Nat.blt_eq, Nat.beq_eq,
    Bool.not_eq_true', ← Bool.not_eq_true] at avoids
  rcases avoids with (below | above) | ⟨aligned, apart⟩
  · omega
  · omega
  · -- The image stands as far from the image of the first point as a multiple of the other stride.
    have multiple : (point - run.first) % other.stride = 0 := by
      rcases aligned with single | divides
      · have same : point - run.first = 0 := by omega
        rw [same, Nat.zero_mod]
      · exact Nat.mod_eq_zero_of_dvd
          (Nat.dvd_trans (Nat.dvd_of_mod_eq_zero divides) (Nat.dvd_of_mod_eq_zero step))
    have congruent : (run.image + (point - run.first)) % other.stride = run.image % other.stride := by
      rw [Nat.add_mod, multiple, Nat.add_zero, Nat.mod_mod]
    have otherCongruent : (run.image + (point - run.first)) % other.stride =
        other.first % other.stride := by
      have split : run.image + (point - run.first) =
          other.first + (run.image + (point - run.first) - other.first) := by omega
      rw [split, Nat.add_mod, otherStep, Nat.add_zero, Nat.mod_mod]
    exact apart (congruent.symm.trans otherCongruent)

/-- A run that avoids a point does not map anything to it. -/
theorem ne_of_avoidsPoint {other : Nat} (avoids : run.avoidsPoint other = true)
    (found : run.image? point = some image) : image ≠ other := by
  obtain ⟨⟨first, last, _⟩, rfl⟩ := image?_eq_some_iff.mp found
  simp only [avoidsPoint, Bool.or_eq_true, Nat.blt_eq] at avoids
  omega

/-- A valid run maps to code points of characters. -/
theorem isValidChar_of_isValid (valid : run.isValid = true) (found : run.image? point = some image) :
    image.isValidChar := by
  obtain ⟨⟨first, last, _⟩, rfl⟩ := image?_eq_some_iff.mp found
  simp only [isValid, Bool.or_eq_true, Bool.and_eq_true, Nat.blt_eq] at valid
  unfold Nat.isValidChar
  omega

end CaseRun

/-! ### The tables -/

/-- The points of the capital sigma and of the letter with an expansion. -/
def specialPoints : List Nat := [0x3a3, 0x130]

/-- No image of a run with a lower-case form has a lower-case form other than itself. -/
theorem lowerRuns_settled : ∀ run ∈ lowerRuns,
    run.isValid = true ∧ (∀ point ∈ specialPoints, run.avoidsPoint point = true) ∧
      ∀ other ∈ lowerRuns, run.avoids other = true := by
  have checked : lowerRuns.all (fun run => run.isValid && specialPoints.all run.avoidsPoint &&
      lowerRuns.all run.avoids) = true := by
    decide +kernel
  simpa [List.all_eq_true, and_assoc] using checked

/-- The character is its own lower-case form in every place. -/
def IsSettled (c : Char) : Prop := lowerChar c = [c] ∧ c ≠ 'Σ'

/-- Whether a character stays as it is in lower case is decided by the tables. -/
instance (c : Char) : Decidable (IsSettled c) := inferInstanceAs (Decidable (_ ∧ _))

/-- The character of a valid code point has this code point. -/
theorem toNat_ofNat {point : Nat} (valid : point.isValidChar) : (Char.ofNat point).toNat = point := by
  rw [Char.ofNat, dif_pos valid]
  rfl

/-- The image of a point on a run is the point of a character that is settled. -/
theorem isSettled_image {run : CaseRun} (listed : run ∈ lowerRuns) {point image : Nat}
    (found : run.image? point = some image) : IsSettled (Char.ofNat image) := by
  obtain ⟨valid, special, others⟩ := lowerRuns_settled run listed
  have toNat : (Char.ofNat image).toNat = image :=
    toNat_ofNat (CaseRun.isValidChar_of_isValid valid found)
  have notSigma : image ≠ 0x3a3 :=
    CaseRun.ne_of_avoidsPoint (special 0x3a3 (by simp [specialPoints])) found
  have noExpansion : image ≠ 0x130 :=
    CaseRun.ne_of_avoidsPoint (special 0x130 (by simp [specialPoints])) found
  constructor
  · have onNoRun : lowerRuns.findSome? (·.image? image) = none :=
      List.findSome?_eq_none_iff.mpr fun other member =>
        CaseRun.image?_of_avoids (others other member) found
    have notListed : lowerExpansions.lookup image = none := by
      rw [lowerExpansions, List.lookup_cons, beq_false_of_ne noExpansion]
      rfl
    rw [lowerChar, mapCase, toNat, notListed, onNoRun]
  · intro same
    rw [same] at toNat
    exact notSigma toNat.symm

/-- Every character of a lower-case form is settled. -/
theorem isSettled_of_mem_lowerChar {c d : Char} (member : d ∈ lowerChar c) : IsSettled d := by
  have whole : lowerChar c = mapCase lowerRuns lowerExpansions c := rfl
  rw [mapCase] at whole
  split at whole
  case h_1 points expanded =>
    have expansions : ∀ entry ∈ lowerExpansions, ∀ point ∈ entry.2,
        IsSettled (Char.ofNat point) := by
      decide +kernel
    obtain ⟨front, back, order, _⟩ := List.lookup_eq_some_iff.mp expanded
    rw [whole] at member
    obtain ⟨point, inside, rfl⟩ := List.mem_map.mp member
    exact expansions (c.toNat, points) (by simp [order]) point inside
  case h_2 =>
    split at whole
    case h_1 image found =>
      rw [whole] at member
      obtain rfl : d = Char.ofNat image := by simpa using member
      obtain ⟨run, listed, isImage⟩ := List.exists_of_findSome?_eq_some found
      exact isSettled_image listed isImage
    case h_2 =>
      obtain rfl : d = c := by simpa [whole] using member
      refine ⟨whole, ?_⟩
      rintro rfl
      exact absurd whole (by decide +kernel)

/-- What a character becomes in lower case stays as it is when it is lowered again. -/
theorem isSettled_of_mem_lowerBetween {before after : List Char} {c d : Char}
    (member : d ∈ lowerBetween before c after) : IsSettled d := by
  have sigmas : IsSettled 'ς' ∧ IsSettled 'σ' := by decide +kernel
  rw [lowerBetween] at member
  split at member
  · split at member
    · rw [List.mem_singleton.mp member]
      exact sigmas.1
    · rw [List.mem_singleton.mp member]
      exact sigmas.2
  · exact isSettled_of_mem_lowerChar member

/-- A text in lower case consists of characters that stay as they are. -/
theorem isSettled_of_mem_lowerAfter {before chars : List Char} {d : Char}
    (member : d ∈ lowerAfter before chars) : IsSettled d := by
  induction chars generalizing before with
  | nil => simp [lowerAfter] at member
  | cons c rest inductionHypothesis =>
    rw [lowerAfter, List.mem_append] at member
    rcases member with here | later
    · exact isSettled_of_mem_lowerBetween here
    · exact inductionHypothesis later

/-- Settled characters stay as they are. -/
theorem lowerAfter_of_settled {before chars : List Char} (settled : ∀ c ∈ chars, IsSettled c) :
    lowerAfter before chars = chars := by
  induction chars generalizing before with
  | nil => rfl
  | cons c rest inductionHypothesis =>
    obtain ⟨⟨same, notSigma⟩, others⟩ := List.forall_mem_cons.mp settled
    rw [lowerAfter, lowerBetween, if_neg notSigma, same, inductionHypothesis others]
    rfl

/-- The lower case of a text is in lower case. -/
theorem lower_lower (text : String) : lower (lower text) = lower text := by
  rw [lower, lower, String.toList_ofList,
    lowerAfter_of_settled fun _ member => isSettled_of_mem_lowerAfter member]

end ContextualQuery.Text
