import FormulaScan.Proofs.Scan.Agreement
import FormulaScan.Proofs.Scan.Tiling
import FormulaScan.Scan.Coverage
import Mathlib.Order.Bounds.Defs

/-!
# Lenient and strict scans of one formula

What a lenient scan leaves out without saying is what a strict scan complains of. The characters that
are lost, neither blank nor covered by a token, are those of the faults (`mem_lost_iff_fault`), and
the first fault begins where the first character is lost (`isLeast_lost`). So the tokens of a
lenient scan tell whether a strict scan succeeds, and with which position it fails
(`strict_scan_follows_lenient_scan`).
-/

namespace FormulaScan

/-! ## Lost characters and faults -/

/-- No character of a fault is blank. -/
theorem Finding.Reads.visible {separator : Char} (admissible : isSeparator separator = true)
    {position : Nat} {text rest : List Char} {fault : Fault}
    (reads : (Finding.fault fault).Reads separator position text rest) {c : Char}
    (member : c ∈ text) : Text.isBlank c = false := by
  cases reads with
  | malformed negative nonempty form noLiteral stops =>
    rcases List.mem_append.mp member with sign | inBody
    · rw [eq_minus_of_mem_signText sign]
      decide
    · exact Pointwise.isBlank_of_continuesNumber admissible (form c inBody)
  | unexpected plain visible noSymbol =>
    rw [List.mem_singleton.mp member]
    exact visible

namespace Tiling

variable {separator : Char} {formula : List Char} {found : List Finding}

/-- The character at a position in a finding is one of those that the finding reads. -/
theorem exists_reads_at (tiling : Tiling separator 0 formula found) {f : Finding} {place : Nat}
    (member : f ∈ found) (inside : f.start ≤ place ∧ place < f.stop) :
    ∃ part behind, f.Reads separator f.start part behind ∧
      ∃ c ∈ part, formula[place]? = some c := by
  obtain ⟨before, part, behind, rfl, start, reads⟩ := tiling.exists_reads member
  refine ⟨part, behind, reads, ?_⟩
  have offset : place - before.length < part.length := by
    rw [Finding.stop, reads.length_eq] at inside
    omega
  refine ⟨part[place - before.length], List.getElem_mem _, ?_⟩
  rw [List.append_assoc, List.getElem?_append_right (by omega),
    List.getElem?_append_left offset, List.getElem?_eq_getElem offset]

/-- The lost characters are those of the faults. -/
theorem mem_lost_iff_fault (admissible : isSeparator separator = true)
    (tiling : Tiling separator 0 formula found) {place : Nat} :
    place ∈ lost formula (found.filterMap Finding.token?) ↔
      ∃ fault, .fault fault ∈ found ∧
        fault.position ≤ place ∧ place < fault.position + fault.length := by
  rw [mem_lost_iff]
  constructor
  · rintro ⟨free, c, here, visible⟩
    have bound : place < formula.length := (List.getElem?_eq_some_iff.mp here).1
    obtain ⟨f, member, inside⟩ := tiling.exists_mem (Nat.zero_le place) (by omega)
    obtain ⟨part, behind, reads, d, inPart, there⟩ := tiling.exists_reads_at member inside
    obtain rfl : d = c := Option.some.inj (there.symm.trans here)
    -- A token would cover the position, and a blank is not visible.
    cases f with
    | token t =>
      have covered : t.covers place = true := Token.covers_iff.mpr inside
      have uncovered := free t (Finding.mem_filterMap_token?.mpr member)
      exact absurd covered (by simp [uncovered])
    | blank start length =>
      cases reads with
      | blank blank =>
        obtain rfl := List.mem_singleton.mp inPart
        exact absurd blank (by simp [visible])
    | fault fault => exact ⟨fault, member, inside⟩
  · rintro ⟨fault, member, inside⟩
    obtain ⟨part, behind, reads, c, inPart, here⟩ := tiling.exists_reads_at member inside
    -- A token that covered the position would be this fault.
    refine ⟨?_, c, here, reads.visible admissible inPart⟩
    intro t isToken
    by_contra covered
    have inside' := Token.covers_iff.mp (eq_true_of_ne_false covered)
    have same := tiling.eq_of_mem member inside (Finding.mem_filterMap_token?.mp isToken) inside'
    cases same

/-- The first fault begins where the first character is lost. -/
theorem isLeast_lost (admissible : isSeparator separator = true)
    (tiling : Tiling separator 0 formula found) {fault : Fault}
    (first : found.findSome? Finding.fault? = some fault) :
    IsLeast {place | place ∈ lost formula (found.filterMap Finding.token?)} fault.position := by
  obtain ⟨before, f, behind, rfl, isFault, noFault⟩ := List.findSome?_eq_some_iff.mp first
  obtain rfl := Finding.fault?_eq_some_iff.mp isFault
  have order := (List.pairwise_append.mp tiling.pairwise).2.1
  constructor
  · refine (tiling.mem_lost_iff_fault admissible).mpr ⟨fault, by simp, Nat.le_refl _, ?_⟩
    exact (tiling.bounds (f := .fault fault) (by simp)).2.1
  -- A lost character is one of a fault, and there is no fault in front of the first one.
  · intro place isLost
    obtain ⟨g, member, inside⟩ := (tiling.mem_lost_iff_fault admissible).mp isLost
    rcases List.mem_append.mp member with earlier | here
    · have none := noFault _ earlier
      cases none
    · rcases List.mem_cons.mp here with same | later
      · cases same
        exact inside.1
      · have := (List.pairwise_cons.mp order).1 _ later
        have size := (tiling.bounds (f := .fault fault) (by simp)).2.1
        calc fault.position ≤ (Finding.fault fault).stop := Nat.le_of_lt size
          _ ≤ g.position := this
          _ ≤ place := inside.1

/-- There is no fault exactly when all that the tokens do not cover is blank. -/
theorem findSome?_fault?_eq_none_iff (admissible : isSeparator separator = true)
    (tiling : Tiling separator 0 formula found) :
    found.findSome? Finding.fault? = none ↔
      ∀ place c, formula[place]? = some c →
        (∀ t ∈ found.filterMap Finding.token?, t.covers place = false) →
          Text.isBlank c = true := by
  constructor
  · intro noFault place c here free
    by_contra visible
    have isLost : place ∈ lost formula (found.filterMap Finding.token?) :=
      mem_lost_iff.mpr ⟨free, c, here, Bool.of_not_eq_true visible⟩
    obtain ⟨fault, member, -⟩ := (tiling.mem_lost_iff_fault admissible).mp isLost
    have none := List.findSome?_eq_none_iff.mp noFault _ member
    cases none
  · intro blank
    rw [Option.eq_none_iff_forall_ne_some]
    intro fault first
    obtain ⟨free, c, here, visible⟩ := mem_lost_iff.mp (tiling.isLeast_lost admissible first).1
    exact absurd (blank _ c here free) (by simp [visible])

end Tiling

/-! ## The two modes -/

/-- A strict scan fails with the first fault, and with no other. -/
theorem strict_scan_eq_error_iff (settings : Settings) {formula : String} {fault : Fault} :
    scan (settings.withMode .strict) formula = .error (.fault fault) ↔
      fault? settings.separator formula.toList = some fault := by
  by_cases empty : formula.toList = []
  · simp [scan, fault?, findings, Run.list, empty]
  · rw [scan_strict (Settings.mode_withMode settings .strict) empty, Settings.separator_withMode]
    cases fault? settings.separator formula.toList <;> simp

/-- A lenient scan of a formula that is not empty succeeds. A strict scan succeeds with the same
tokens if all that these tokens do not cover is blank; otherwise it fails at the first character
that is lost. -/
theorem strict_scan_follows_lenient_scan (settings : Settings) {formula : String}
    (nonempty : formula ≠ "") :
    ∃ read, scan (settings.withMode .lenient) formula = .ok read ∧
      ((scan (settings.withMode .strict) formula).isOk = true ↔
        ∀ place c, formula.toList[place]? = some c → (∀ t ∈ read, t.covers place = false) →
          Text.isBlank c = true) ∧
      (∀ read', scan (settings.withMode .strict) formula = .ok read' → read' = read) ∧
      ∀ e, scan (settings.withMode .strict) formula = .error e →
        e ≠ .emptyFormula ∧ ∃ place, e.position? = some place ∧
          IsLeast {p | p ∈ lost formula.toList read} place := by
  have admissible := settings.isSeparator_separator
  have filled : formula.toList ≠ [] := by simpa using nonempty
  have tiling := tiling_findings settings.separator formula.toList
  have lenient := scan_lenient (Settings.mode_withMode settings .lenient) filled
  have strict := scan_strict (Settings.mode_withMode settings .strict) filled
  simp only [Settings.separator_withMode, tokens_eq_pointwise admissible,
    fault?_eq_pointwise admissible] at lenient strict
  refine ⟨_, lenient, ?_⟩
  -- What is left is about the strict scan, and the first fault decides on it.
  rw [strict, ← tiling.findSome?_fault?_eq_none_iff admissible]
  cases first :
      (Pointwise.findings settings.separator formula.toList).findSome? Finding.fault? with
  | none =>
    refine ⟨by simp [Except.isOk, Except.toBool], ?_, ?_⟩
    · rintro read' ⟨⟩
      rfl
    · rintro e ⟨⟩
  | some fault =>
    refine ⟨by simp [Except.isOk, Except.toBool], ?_, ?_⟩
    · rintro read' ⟨⟩
    · rintro e ⟨⟩
      exact ⟨by simp, fault.position, rfl, tiling.isLeast_lost admissible first⟩

/-- Of a number with two separators and an unknown sign a lenient scan leaves nothing. -/
theorem strict_scan_follows_lenient_scan_malformed :
    "-1.2.3 @" ≠ "" ∧
      ∃ read, scan (Settings.default.withMode .lenient) "-1.2.3 @" = .ok read ∧
        ((scan (Settings.default.withMode .strict) "-1.2.3 @").isOk = true ↔
          ∀ place c, "-1.2.3 @".toList[place]? = some c →
            (∀ t ∈ read, t.covers place = false) → Text.isBlank c = true) ∧
        (∀ read', scan (Settings.default.withMode .strict) "-1.2.3 @" = .ok read' →
          read' = read) ∧
        ∀ e, scan (Settings.default.withMode .strict) "-1.2.3 @" = .error e →
          e ≠ .emptyFormula ∧ ∃ place, e.position? = some place ∧
            IsLeast {p | p ∈ lost "-1.2.3 @".toList read} place :=
  ⟨by decide, strict_scan_follows_lenient_scan .default (by decide)⟩

end FormulaScan
