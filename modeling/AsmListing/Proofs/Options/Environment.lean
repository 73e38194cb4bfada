import Mathlib
import AsmListing.FormatOptions.Environment
import AsmListing.Proofs.Options.Changes

/-! Options loaded from environments. Each option takes the value of its variable, read by the kind of
value that the option has, or else stays as it is. Loading from one environment and then from another
is loading once from both, where the later variables count. -/
namespace AsmListing
open Outcome

/-- An optional text as a value. -/
def Datum.ofText (s : Option String) : Datum := s.elim .null .text

namespace Environment
variable {env later earlier : Environment} {option : String}

/-- The environment has all variables of the two others. Where both have one, the first counts. -/
def Overlays (env later earlier : Environment) : Prop :=
  ∀ name, env.lookup name = (later.lookup name).or (earlier.lookup name)

theorem overlays_append (later earlier : Environment) :
    Overlays (later ++ earlier) later earlier :=
  fun _ => List.lookup_append

private theorem Overlays.get? (h : env.Overlays later earlier) (option : String) :
    env.get? option = (later.get? option).or (earlier.get? option) := h _

private theorem Overlays.flag? (h : env.Overlays later earlier) (option : String) :
    env.flag? option = (later.flag? option).or (earlier.flag? option) := by
  rw [Environment.flag?, h.get?, Option.map_or]
  rfl

private theorem Overlays.text? (h : env.Overlays later earlier) (option : String) :
    env.text? option = (later.text? option).or (earlier.text? option) := by
  rw [Environment.text?, h.get?, Option.map_or]
  rfl

/-- An integer that cannot be read is reported if it is in the later environment. -/
private theorem Overlays.integer? (h : env.Overlays later earlier) {n : Option Int}
    (hn : earlier.integer? option = .ok n) :
    env.integer? option = (·.or n) <$> later.integer? option := by
  rw [Environment.integer?, h.get?, Environment.integer?]
  cases later.get? option with
  | none => exact hn
  | some raw =>
    dsimp only [Option.some_or]
    split <;> rfl

/-- The value that a text gives to an option. How it is read depends on the value that the option
has. -/
def reading? (present : Datum) (raw : String) : Option Datum :=
  match present with
  | .flag _ => some (.flag (flagValue raw))
  | .integer _ => (Numeral.markedLiteral (Text.trim raw.toList)).toOption.map .integer
  | _ => some (.ofText (if raw = "" then none else some raw))

/-- The value of an option after loading: that of its variable, or the present one without it. -/
def setting? (env : Environment) (option : String) (present : Datum) : Option Datum :=
  (env.get? option).elim (some present) (reading? present)

private theorem setting?_flag (env : Environment) (option : String) (present : Bool) :
    env.setting? option (.flag present) = some (.flag ((env.flag? option).getD present)) := by
  rw [setting?, flag?]
  cases env.get? option with
  | none => rfl
  | some raw => rw [Option.elim_some, reading?, Option.map_some, Option.getD_some]

private theorem setting?_text (env : Environment) (option : String) (present : Option String) :
    env.setting? option (.ofText present) = some (.ofText ((env.text? option).getD present)) := by
  rw [setting?, text?]
  cases env.get? option with
  | none => rfl
  | some raw => cases present <;> rfl

private theorem setting?_integer {n : Option Int} (h : env.integer? option = .ok n) (present : Int) :
    env.setting? option (.integer present) = some (.integer (n.getD present)) := by
  rw [integer?] at h
  rw [setting?]
  cases hraw : env.get? option with
  | none =>
    rw [hraw] at h
    cases h
    rfl
  | some raw =>
    rw [hraw] at h
    dsimp only at h
    split at h
    · next k hk =>
      cases h
      rw [Option.elim_some, reading?, hk]
      rfl
    · cases h

end Environment

private theorem newCount_eq_ok {option : String} {present k : Nat} {n : Option Int}
    (h : newCount option present n = .ok k) : n.getD present = k := by
  cases n with
  | none =>
    cases h
    rfl
  | some n =>
    rw [newCount] at h
    split at h
    · cases h
    · next hn =>
      cases h
      exact (Int.toNat_of_nonneg (not_lt.mp hn)).symm

private theorem newRadix_eq_ok {present r : Radix} {n : Option Int}
    (h : newRadix present (n.map .integer) = .ok r) : n.getD present.value = r.value := by
  cases n with
  | none =>
    cases h
    rfl
  | some n => exact Radix.ofDatum_integer.mp h

namespace FormatOptions
variable {b o : FormatOptions} {env later earlier : Environment}

/-- The changes of the two environments are made one after the other. -/
private theorem Changes.ofEnvironment_overlays (h : env.Overlays later earlier) {c : Changes}
    (hc : ofEnvironment earlier = .ok c) :
    ofEnvironment env = c.followedBy <$> ofEnvironment later := by
  simp only [ofEnvironment, bind_eq_ok] at hc
  obtain ⟨radix, hradix, hex, hhex, decimal, hdecimal, octal, hoctal, binary, hbinary, column, hcolumn,
    hc⟩ := hc
  cases hc
  simp only [ofEnvironment, h.integer? hradix, h.integer? hhex, h.integer? hdecimal, h.integer? hoctal,
    h.integer? hbinary, h.integer? hcolumn, h.flag?, h.text?, map_bind, bind_map_left, map_pure,
    Changes.followedBy, Option.map_or]

theorem load_overlays (h : env.Overlays later earlier) (ho : b.load earlier = .ok o) :
    o.load later = b.load env := by
  obtain ⟨c, hc, hchange⟩ := bind_eq_ok.mp ho
  rw [load, load, Changes.ofEnvironment_overlays h hc, bind_map_left]
  simp only [change_followedBy hchange]

/-- The value of each option, under the name of its variable. -/
def settings (o : FormatOptions) : List (String × Datum) :=
  [("UPPERCASE_PREFIXES", .flag o.uppercasePrefixes),
   ("UPPERCASE_MNEMONICS", .flag o.uppercaseMnemonics),
   ("UPPERCASE_REGISTERS", .flag o.uppercaseRegisters),
   ("UPPERCASE_KEYWORDS", .flag o.uppercaseKeywords),
   ("UPPERCASE_DECORATORS", .flag o.uppercaseDecorators),
   ("UPPERCASE_ALL", .flag o.uppercaseAll),
   ("NUMBER_BASE", .integer o.radix.value),
   ("UPPERCASE_HEX", .flag o.uppercaseHex),
   ("HEX_PREFIX", .ofText o.hexPrefix),
   ("HEX_SUFFIX", .ofText o.hexSuffix),
   ("DECIMAL_PREFIX", .ofText o.decimalPrefix),
   ("DECIMAL_SUFFIX", .ofText o.decimalSuffix),
   ("OCTAL_PREFIX", .ofText o.octalPrefix),
   ("OCTAL_SUFFIX", .ofText o.octalSuffix),
   ("BINARY_PREFIX", .ofText o.binaryPrefix),
   ("BINARY_SUFFIX", .ofText o.binarySuffix),
   ("DIGIT_SEPARATOR", .ofText o.digitSeparator),
   ("HEX_DIGIT_GROUP_SIZE", .integer o.hexGroupSize),
   ("DECIMAL_DIGIT_GROUP_SIZE", .integer o.decimalGroupSize),
   ("OCTAL_DIGIT_GROUP_SIZE", .integer o.octalGroupSize),
   ("BINARY_DIGIT_GROUP_SIZE", .integer o.binaryGroupSize),
   ("LEADING_ZEROS", .flag o.leadingZeros),
   ("DISPLACEMENT_LEADING_ZEROS", .flag o.displacementLeadingZeros),
   ("BRANCH_LEADING_ZEROS", .flag o.branchLeadingZeros),
   ("SIGNED_IMMEDIATE_OPERANDS", .flag o.signedImmediates),
   ("SIGNED_MEMORY_DISPLACEMENTS", .flag o.signedDisplacements),
   ("SMALL_HEX_NUMBERS_IN_DECIMAL", .flag o.smallHexInDecimal),
   ("ADD_LEADING_ZERO_TO_HEX_NUMBERS", .flag o.leadingZeroBeforeHexLetter),
   ("FIRST_OPERAND_CHAR_INDEX", .integer o.firstOperandColumn),
   ("SPACE_AFTER_OPERAND_SEPARATOR", .flag o.spaceAfterSeparator),
   ("SPACE_AFTER_MEMORY_BRACKET", .flag o.spaceInsideBrackets),
   ("SPACE_BETWEEN_MEMORY_ADD_OPERATORS", .flag o.spaceAroundAdd),
   ("SPACE_BETWEEN_MEMORY_MUL_OPERATORS", .flag o.spaceAroundMul),
   ("SHOW_BRANCH_SIZE", .flag o.showBranchSize),
   ("SHOW_MEMORY_SIZE", .flag o.showMemorySize),
   ("GAS_NAKED_REGISTERS", .flag o.nakedRegisters)]

/-- The value of the option with the variable of that name. -/
def setting? (o : FormatOptions) (name : String) : Option Datum := o.settings.lookup name

private theorem lookup_eq_bind {xs ys : List (String × Datum)}
    (h : List.Forall₂ (fun x y => x.1 = y.1 ∧ env.setting? x.1 x.2 = some y.2) xs ys) (name : String) :
    ys.lookup name = (xs.lookup name).bind (env.setting? name) := by
  induction h with
  | nil => rfl
  | @cons x y xs ys hxy _ ih =>
    obtain ⟨key, value⟩ := y
    obtain ⟨rfl, hvalue⟩ := hxy
    rw [List.lookup_cons, List.lookup_cons]
    split
    · next hname =>
      rw [beq_iff_eq.mp hname, Option.bind_some, hvalue]
    · exact ih

/-- Each option has been set by its variable. -/
theorem setting?_load (h : b.load env = .ok o) (name : String) :
    o.setting? name = (b.setting? name).bind (env.setting? name) := by
  obtain ⟨c, hc, hchange⟩ := bind_eq_ok.mp h
  have hupdated := (change_eq_ok.mp hchange).1
  simp only [Changes.ofEnvironment, bind_eq_ok] at hc
  obtain ⟨radix, hradix, hex, hhex, decimal, hdecimal, octal, hoctal, binary, hbinary, column, hcolumn,
    hc⟩ := hc
  cases hc
  simp only [updated, bind_eq_ok] at hupdated
  obtain ⟨radix', hradix', hex', hhex', decimal', hdecimal', octal', hoctal', binary', hbinary', column',
    hcolumn', ho⟩ := hupdated
  cases ho
  apply lookup_eq_bind
  simp only [settings, List.forall₂_cons, List.Forall₂.nil, Environment.setting?_flag,
    Environment.setting?_text, Environment.setting?_integer hradix, Environment.setting?_integer hhex,
    Environment.setting?_integer hdecimal, Environment.setting?_integer hoctal,
    Environment.setting?_integer hbinary, Environment.setting?_integer hcolumn,
    newRadix_eq_ok hradix', newCount_eq_ok hhex', newCount_eq_ok hdecimal', newCount_eq_ok hoctal',
    newCount_eq_ok hbinary', newCount_eq_ok hcolumn', and_self]

/-- Only the variables of options count. -/
theorem load_congr {env' : Environment} (h : ∀ name ∈ variableNames, env.get? name = env'.get? name) :
    b.load env = b.load env' := by
  simp only [variableNames, List.forall_mem_cons] at h
  simp only [load, Changes.ofEnvironment, Environment.flag?, Environment.text?, Environment.integer?, h]

theorem load_of_not_overridden (hb : b.checked = .ok b) (h : overriddenBy env = false) :
    b.load env = .ok b := by
  have habsent : ∀ name ∈ variableNames, env.get? name = Environment.get? [] name := by
    intro name hname
    have hnone : env.get? name = none := by
      simpa using List.any_eq_false.mp h name hname
    rw [hnone]
    rfl
  rw [load_congr habsent]
  exact hb

theorem checked_of_load (h : b.load env = .ok o) : o.checked = .ok o := by
  obtain ⟨c, -, hchange⟩ := bind_eq_ok.mp h
  exact checked_eq_ok.mpr ⟨(change_eq_ok.mp hchange).2, rfl⟩

/-- Options set by one environment and then by another are those set by both, where the later one counts
first, also if that fails. Each option is set by its variable alone, and options that have been set are
not changed by the same variables again. -/
theorem environments_compose (hb : b.checked = .ok b) :
    (∀ {earlier later env : Environment} {o : FormatOptions}, env.Overlays later earlier →
      b.load earlier = .ok o → o.load later = b.load env) ∧
    (∀ {env : Environment} {o : FormatOptions}, b.load env = .ok o →
      o.checked = .ok o ∧ o.load env = .ok o ∧ ∀ name,
        (env.get? name = none → o.setting? name = b.setting? name) ∧
        ∀ raw, env.get? name = some raw →
          o.setting? name = (b.setting? name).bind (Environment.reading? · raw)) ∧
    (∀ {env env' : Environment}, (∀ name ∈ variableNames, env.get? name = env'.get? name) →
      b.load env = b.load env') ∧
    (∀ {env : Environment}, overriddenBy env = false → b.load env = .ok b) := by
  refine ⟨load_overlays, fun {env o} ho => ⟨checked_of_load ho, ?_, fun name =>
    ⟨fun habsent => ?_, fun raw hraw => ?_⟩⟩, load_congr, load_of_not_overridden hb⟩
  · have hself : env.Overlays env env := fun name => Option.or_self.symm
    rw [load_overlays hself ho, ho]
  · have hkept : env.setting? name = some := by
      funext present
      rw [Environment.setting?, habsent, Option.elim_none]
    rw [setting?_load ho, hkept, Option.bind_fun_some]
  · have hset : env.setting? name = (Environment.reading? · raw) := by
      funext present
      rw [Environment.setting?, hraw, Option.elim_some]
    rw [setting?_load ho, hset]

/-- One flag is turned off and another on, the value of which is no word for a flag. The group size alone
would leave the separator of the earlier environment without groups. -/
theorem environments_compose_cleared :
    let earlier : Environment := [("DISFMT_DIGIT_SEPARATOR", "_"), ("DISFMT_NUMBER_BASE", " 0b10"),
      ("DISFMT_SHOW_BRANCH_SIZE", "OFF "), ("DISFMT_UPPERCASE_ALL", "00"), ("SHOW_MEMORY_SIZE", "off")]
    let ungrouped : Environment := [("DISFMT_BINARY_DIGIT_GROUP_SIZE", "0")]
    let cleared : Environment := ("DISFMT_DIGIT_SEPARATOR", "") :: ungrouped
    let o : FormatOptions :=
      { intel with
        digitSeparator := some "_", radix := .binary, showBranchSize := false, uppercaseAll := true }
    intel.load earlier = .ok o ∧ o.load earlier = .ok o ∧
      o.load ungrouped = .error (.ungroupedRadix "_" 2) ∧
      intel.load (ungrouped ++ earlier) = .error (.ungroupedRadix "_" 2) ∧
      intel.load (cleared ++ earlier) = .ok { o with digitSeparator := none, binaryGroupSize := 0 } := by
  intro earlier ungrouped cleared o
  obtain ⟨hcompose, hload, -⟩ := environments_compose (b := intel) rfl
  have ho : intel.load earlier = .ok o := by cbv
  have hungrouped : o.load ungrouped = .error (.ungroupedRadix "_" 2) := by cbv
  have hcleared : o.load cleared = .ok { o with digitSeparator := none, binaryGroupSize := 0 } := by cbv
  refine ⟨ho, (hload ho).2.1, hungrouped, ?_, ?_⟩
  · rw [← hcompose (Environment.overlays_append ungrouped earlier) ho, hungrouped]
  · rw [← hcompose (Environment.overlays_append cleared earlier) ho, hcleared]

end FormatOptions
end AsmListing
