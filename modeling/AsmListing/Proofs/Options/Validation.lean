import Mathlib
import AsmListing.Proofs.Formatter.Causes
import AsmListing.Proofs.Options.Environment

/-! The checks of a formatter's options and of the options for its numbers agree, so that no operation
of a formatter fails for its options. -/
namespace AsmListing
open Outcome

namespace FormatOptions
variable {o p : FormatOptions}

/-- Options as they can be had: the defaults or a preset, with changes made or loaded. -/
inductive Constructed : FormatOptions → Prop
  | defaults : Constructed {}
  | intel : Constructed .intel
  | masm : Constructed .masm
  | nasm : Constructed .nasm
  | gas : Constructed .gas
  | changed {o o' : FormatOptions} {c : Changes} (h : Constructed o) (hc : o.change c = .ok o') :
      Constructed o'
  | loaded {o o' : FormatOptions} {env : Environment} (h : Constructed o) (henv : o.load env = .ok o') :
      Constructed o'

theorem Constructed.checked (h : o.Constructed) : o.checked = .ok o := by
  cases h with
  | defaults | intel | masm | nasm | gas => rfl
  | changed _ hc => exact checked_eq_ok.mpr ⟨(change_eq_ok.mp hc).2, rfl⟩
  | loaded _ henv => exact checked_of_load henv

/-- Once the radix and the counts are accepted, only the digit separator can be refused. -/
theorem exists_change_error_iff {c : Changes} (h : o.updated c = .ok p) :
    (∃ e, o.change c = .error e) ↔ FaultySeparator p.separator (p.groupSize p.radix) := by
  rw [exists_error_iff, not_iff_comm]
  simp only [change_eq_ok, h, Except.ok.injEq]
  constructor
  · exact fun hsound => ⟨p, rfl, hsound⟩
  · rintro ⟨_, rfl, hsound⟩
    exact hsound

end FormatOptions

/-- The options for numbers are refused for the same digit separators. -/
theorem NumberOptions.exists_change_error_iff (o : NumberOptions) {c : Changes} {radix : Radix}
    {separator : String} {size : Nat} (hradix : c.radix = some (.integer radix.value))
    (hseparator : c.digitSeparator = some separator) (hsize : c.groupSize = some (size : Int)) :
    (∃ e, o.change c = .error e) ↔ FaultySeparator separator size := by
  have hnewRadix : newRadix o.radix c.radix = .ok radix := by
    rw [hradix]
    exact Radix.ofDatum_integer.mpr rfl
  have hnewSize : newCount "digit_group_size" o.groupSize c.groupSize = .ok size := by
    rw [hsize, newCount, if_neg (by omega), Int.toNat_natCast]
  rw [exists_error_iff, not_iff_comm, change, hnewRadix, hnewSize, hseparator]
  constructor
  · exact fun hsound => ⟨_, checked_eq_ok.mpr ⟨hsound, rfl⟩⟩
  · rintro ⟨n, hn⟩
    exact (checked_eq_ok.mp hn).1

/-- Options that can be had give options for every kind of number, so that no operation of a formatter
fails for its options. Once the radix and the counts of new options are accepted, they are refused for
the digit separators for which options for numbers are refused, given directly. -/
theorem option_checks_agree :
    (∀ o : FormatOptions, o.Constructed → ∀ kind, ∃ n, NumberOptions.ofFormat kind o = .ok n) ∧
    (∀ f : Formatter, f.options.Constructed → ∀ (i : Instruction) (op : Formatter.Operation)
      (cause : ConfigurationError), f.failure? i op ≠ some (.configuration cause)) ∧
    ∀ (o p : FormatOptions) (c : FormatOptions.Changes), o.updated c = .ok p →
      ∀ (n : NumberOptions) (k : NumberOptions.Changes), k.radix = some (.integer p.radix.value) →
        k.digitSeparator = some p.separator → k.groupSize = some (p.groupSize p.radix : Int) →
        ((∃ e, o.change c = .error e) ↔ FaultySeparator p.separator (p.groupSize p.radix)) ∧
        ((∃ e, n.change k = .error e) ↔ FaultySeparator p.separator (p.groupSize p.radix)) := by
  refine ⟨fun o ho kind => ?_, fun f hf i op cause hcause => ?_, fun o p c hp n k hradix hseparator hsize =>
    ⟨FormatOptions.exists_change_error_iff hp, n.exists_change_error_iff hradix hseparator hsize⟩⟩
  · exact ⟨_, NumberOptions.ofFormat_eq_drawn ho.checked kind⟩
  · exact Formatter.isForeign_of_failure? hf.checked hcause

/-- A separator without groups is accepted until its radix is chosen. -/
theorem option_checks_agree_ungrouped_decimal :
    let env : Environment := [("DISFMT_DIGIT_SEPARATOR", "'"), ("DISFMT_DECIMAL_DIGIT_GROUP_SIZE", "0")]
    let o : FormatOptions := { FormatOptions.gas with digitSeparator := some "'", decimalGroupSize := 0 }
    FormatOptions.gas.load env = .ok o ∧ (∀ kind, ∃ n, NumberOptions.ofFormat kind o = .ok n) ∧
      (∃ e, o.change { radix := some (.integer 10) } = .error e) ∧
      ∃ e, ({} : NumberOptions).change
        { radix := some (.integer 10), digitSeparator := some "'", groupSize := some 0 } = .error e := by
  intro env o
  have ho : FormatOptions.gas.load env = .ok o := by cbv
  obtain ⟨hcreate, -, hreject⟩ := option_checks_agree
  obtain ⟨hformat, hnumber⟩ := hreject o { o with radix := .decimal } { radix := some (.integer 10) } rfl {}
    { radix := some (.integer 10), digitSeparator := some "'", groupSize := some 0 } rfl rfl rfl
  have hfaulty : FaultySeparator "'" 0 := by decide
  exact ⟨ho, hcreate o (.loaded .gas ho), hformat.mpr hfaulty, hnumber.mpr hfaulty⟩

end AsmListing
