import Mathlib
import AsmListing.Proofs.Grammar.Derivation
import AsmListing.Proofs.Reader.Words

/-! How operands are spelled. The spelling of an operand is cut into its lexemes, and these derive from
it. -/
namespace AsmListing
open Terminal (isOneOf sizeWords Stops head_not_gap)

/-- A word that starts with a letter and goes on with letters and digits. -/
def IsName (s : String) : Prop := (∀ c ∈ s.toList, c.isAlphanum) ∧ s.toList.head?.any Char.isAlpha

/-- A name that is no keyword of operands. -/
def IsOperandName (s : String) : Prop :=
  IsName s ∧ isOneOf sizeWords s.toList = false ∧ isOneOf ["short"] s.toList = false

/-- A word for some number. -/
def IsNumeral (s : String) : Prop := ∃ n, Numeral.Spells n s.toList

theorem IsNumeral.isAlphanum {s : String} (h : IsNumeral s) : ∀ c ∈ s.toList, c.isAlphanum := by
  obtain ⟨n, hn⟩ := h
  exact hn.isAlphanum

theorem IsNumeral.head_isDigit {s : String} (h : IsNumeral s) : s.toList.head?.any Char.isDigit := by
  obtain ⟨n, hn⟩ := h
  exact hn.head_isDigit

namespace Terminal
variable {s : String} {rest : List Char}

theorem length?_number_append (h : IsNumeral s) (hstop : Stops rest) :
    length? .number (s.toList ++ rest) = some s.toList.length := by
  obtain ⟨n, hn⟩ := h
  rw [length?, wordLength?_append hn.isAlphanum hstop, if_pos hn.isNumber]

/-- No terminal that starts with a letter or a sign is at the front of a number. -/
theorem length?_append_of_isNumeral (h : IsNumeral s) (hstop : Stops rest) :
    length? .sizeWord (s.toList ++ rest) = none ∧ length? .shortWord (s.toList ++ rest) = none ∧
      length? .name (s.toList ++ rest) = none ∧ length? .sign (s.toList ++ rest) = none := by
  have hhead := h.head_isDigit
  have hsize : isOneOf sizeWords s.toList = false := isOneOf_of_isDigit (by decide) hhead
  have hshort : isOneOf ["short"] s.toList = false := isOneOf_of_isDigit (by decide) hhead
  refine ⟨sizeLength?_append h.isAlphanum hstop hsize, ?_, ?_, ?_⟩
  · rw [length?, wordLength?_append h.isAlphanum hstop, hshort, if_neg (by decide)]
  all_goals
    cases hs : s.toList with
    | nil => simp [hs] at hhead
    | cons c w =>
      rw [hs] at hhead
      have hdigit : c.isDigit := hhead
      have hsign : (c == '+' || c == '-') = false :=
        Text.forall_ascii (P := fun c => c.isDigit → (c == '+' || c == '-') = false) (by decide)
          (Text.toNat_lt_of_isDigit hdigit) hdigit
      simp [length?, charLength?, isNameLetter_of_isDigit hdigit, hsign]

end Terminal

namespace Reads
open Terminal (length? wordLength?_append sizeLength?_append length?_name_append length?_number_append
  length?_append_of_isNumeral)
variable {s : String} {rest : List Char} {place : Place}

/-- A word that is no other terminal of an operand is read as the name of a register. -/
theorem operandName (hplace : place.next = Place.afterComma.next) (hs : IsOperandName s)
    (hstop : Stops rest) : Reads place (s.toList ++ rest) [⟨.name, s⟩] (.afterWord false) rest := by
  obtain ⟨h, hsize, hshort⟩ := hs
  have hread : place.read? (s.toList ++ rest) = some (.name, .afterWord false, s.toList.length) := by
    have hnosize : length? .sizeWord (s.toList ++ rest) = none := sizeLength?_append h.1 hstop hsize
    have hnoshort : length? .shortWord (s.toList ++ rest) = none := by
      rw [length?, wordLength?_append h.1 hstop, hshort, if_neg (by decide)]
    rw [Place.read?, hplace]
    simp [Place.next, Place.operandStarts, hnosize, hnoshort, length?_name_append h.1 h.2 hstop]
  simpa using Reads.lexeme (head_not_gap h.1) hread

theorem operandNumber (hplace : place.next = Place.afterComma.next) (h : IsNumeral s)
    (hstop : Stops rest) : Reads place (s.toList ++ rest) [⟨.number, s⟩] (.afterOperand false) rest := by
  have hread : place.read? (s.toList ++ rest) =
      some (.number, .afterOperand false, s.toList.length) := by
    obtain ⟨hsize, hshort, hname, hsign⟩ := length?_append_of_isNumeral h hstop
    rw [Place.read?, hplace]
    simp [Place.next, Place.operandStarts, hsize, hshort, hname, hsign, length?_number_append h hstop]
  simpa using Reads.lexeme (head_not_gap h.isAlphanum) hread

/-- A name is read where it is the preferred terminal. -/
theorem name {after : Place} {others : List (Terminal × Place)}
    (hplace : place.next = (.name, after) :: others) (h : IsName s) (hstop : Stops rest) :
    Reads place (s.toList ++ rest) [⟨.name, s⟩] after rest := by
  have hread : place.read? (s.toList ++ rest) = some (.name, after, s.toList.length) := by
    rw [Place.read?, hplace]
    simp [length?_name_append h.1 h.2 hstop]
  simpa using Reads.lexeme (head_not_gap h.1) hread

/-- A number is read where only it or a name can stand. -/
theorem number {after : Place} (hplace : place.next = [(.number, after)] ∨
      ∃ q, place.next = [(.name, q), (.number, after)]) (h : IsNumeral s) (hstop : Stops rest) :
    Reads place (s.toList ++ rest) [⟨.number, s⟩] after rest := by
  have hread : place.read? (s.toList ++ rest) = some (.number, after, s.toList.length) := by
    obtain ⟨-, -, hname, -⟩ := length?_append_of_isNumeral h hstop
    rw [Place.read?]
    rcases hplace with hplace | ⟨q, hplace⟩
    · simp [hplace, length?_number_append h hstop]
    · simp [hplace, hname, length?_number_append h hstop]
  simpa using Reads.lexeme (head_not_gap h.isAlphanum) hread

/-- A single character is read by computation. -/
theorem char {after : Place} {t : Terminal} (c : Char) (hgap : isGap c = false)
    (h : place.read? (c :: rest) = some (t, after, 1)) :
    Reads place (c :: rest) [⟨t, String.singleton c⟩] after rest :=
  @Reads.lexeme place after rest t [c] hgap h

end Reads

def Sign.char : Sign → Char
  | .plus => '+'
  | .minus => '-'

namespace Term

def spelling : Term → List Char
  | .register name => name.toList
  | .scaled name factor => name.toList ++ '*' :: factor.toList
  | .number text => text.toList

def lexemes : Term → List Lexeme
  | .register name => [⟨.name, name⟩]
  | .scaled name factor => [⟨.name, name⟩, ⟨.star, "*"⟩, ⟨.number, factor⟩]
  | .number text => [⟨.number, text⟩]

/-- The words of the summand are names and numbers. -/
def Spelled : Term → Prop
  | .register name => IsName name
  | .scaled name factor => IsName name ∧ IsNumeral factor
  | .number text => IsNumeral text

/-- The place after the summand. -/
def after : Term → Place
  | .register _ => .afterTermName false
  | _ => .afterTerm false

theorem after_cases (t : Term) : t.after = .afterTermName false ∨ t.after = .afterTerm false := by
  cases t <;> simp [after]

theorem reads {t : Term} (h : t.Spelled) {rest : List Char} (hstop : Stops rest) :
    Reads (.beforeTerm false) (t.spelling ++ rest) t.lexemes t.after rest := by
  cases t with
  | register name => exact Reads.name rfl h hstop
  | scaled name factor =>
    have hname : Reads (.beforeTerm false) (name.toList ++ '*' :: (factor.toList ++ rest)) _ _ _ :=
      Reads.name rfl h.1 rfl
    have hstar : Reads (.afterTermName false) ('*' :: (factor.toList ++ rest)) _ _ _ :=
      Reads.char '*' rfl rfl
    have hnumber : Reads (.afterStar false) (factor.toList ++ rest) _ _ _ :=
      Reads.number (.inl rfl) h.2 hstop
    simpa [spelling, lexemes, after] using hname.trans (hstar.trans hnumber)
  | number text => exact Reads.number (.inr ⟨_, rfl⟩) h hstop

theorem derives_lexemes (t : Term) : t.Derives t.lexemes := by
  cases t with
  | register name => exact .register name
  | scaled name factor => exact .scaled name "*" factor
  | number text => exact .number text

end Term

namespace Phrase

def moreSpelling (more : List (Sign × Term)) : List Char :=
  more.flatMap fun (sign, term) => sign.char :: term.spelling

def moreLexemes (more : List (Sign × Term)) : List Lexeme :=
  more.flatMap fun (sign, term) => ⟨.sign, String.singleton sign.char⟩ :: term.lexemes

private theorem stops_more (more : List (Sign × Term)) (rest : List Char) :
    Stops (moreSpelling more ++ ']' :: rest) := by
  cases more with
  | nil => rfl
  | cons x more =>
    obtain ⟨sign, term⟩ := x
    cases sign <;> rfl

/-- The summands after the first, up to the bracket. The induction goes over the places behind a
summand, for the first summand and those that follow leave the scanner in either of two. -/
theorem reads_more {more : List (Sign × Term)} (h : ∀ x ∈ more, x.2.Spelled) {place : Place}
    (hplace : place = .afterTermName false ∨ place = .afterTerm false) (rest : List Char) :
    Reads place (moreSpelling more ++ ']' :: rest) (moreLexemes more ++ [⟨.closeBracket, "]"⟩])
      (.afterOperand false) rest := by
  induction more generalizing place with
  | nil => rcases hplace with rfl | rfl <;> exact Reads.char ']' rfl rfl
  | cons x more ih =>
    obtain ⟨sign, term⟩ := x
    have hterm : Reads (.beforeTerm false) (term.spelling ++ (moreSpelling more ++ ']' :: rest)) _ _ _ :=
      Term.reads (h _ List.mem_cons_self) (stops_more more rest)
    have hrest := ih (fun y hy => h y (List.mem_cons_of_mem _ hy)) term.after_cases
    have hsign : Reads place (sign.char :: (term.spelling ++ (moreSpelling more ++ ']' :: rest)))
        [⟨.sign, String.singleton sign.char⟩] (.beforeTerm false)
        (term.spelling ++ (moreSpelling more ++ ']' :: rest)) := by
      rcases hplace with rfl | rfl <;> cases sign <;> exact Reads.char _ rfl rfl
    simpa [moreSpelling, moreLexemes] using hsign.trans (hterm.trans hrest)

/-- The size words in front of a memory operand. -/
def sizeTexts : List String := ["byte ptr", "word ptr", "dword ptr", "qword ptr", "xmmword ptr"]

def spelling : Phrase → List Char
  | .register name => name.toList
  | .number none text => text.toList
  | .number (some sign) text => sign.char :: text.toList
  | .shortBranch text => ['s', 'h', 'o', 'r', 't', ' '] ++ text.toList
  | .decorator text => text.toList
  | .memory size segment first more =>
    size.elim [] (fun s => s.toList ++ [' ']) ++ segment.elim [] (fun s => s.toList ++ [':']) ++
      '[' :: (first.spelling ++ (moreSpelling more ++ [']']))

def lexemes : Phrase → List Lexeme
  | .register name => [⟨.name, name⟩]
  | .number none text => [⟨.number, text⟩]
  | .number (some sign) text => [⟨.sign, String.singleton sign.char⟩, ⟨.number, text⟩]
  | .shortBranch text => [⟨.shortWord, "short"⟩, ⟨.number, text⟩]
  | .decorator text => [⟨.decorator, text⟩]
  | .memory size segment first more =>
    size.elim [] (fun s => [⟨.sizeWord, s⟩]) ++
      segment.elim [] (fun s => [⟨.name, s⟩, ⟨.colon, ":"⟩]) ++
      ⟨.openBracket, "["⟩ :: (first.lexemes ++ (moreLexemes more ++ [⟨.closeBracket, "]"⟩]))

/-- The words of the operand are what they have to be. -/
def Spelled : Phrase → Prop
  | .register name => IsOperandName name
  | .number _ text => IsNumeral text
  | .shortBranch text => IsNumeral text
  | .decorator text => text ∈ Terminal.decorators
  | .memory size segment first more => (∀ s ∈ size, s ∈ sizeTexts) ∧
      (∀ s ∈ segment, IsOperandName s) ∧ first.Spelled ∧ ∀ x ∈ more, x.2.Spelled

/-- The place after the operand. -/
def after : Phrase → Place
  | .register _ => .afterWord false
  | _ => .afterOperand false

/-- What stands in brackets, from the place before them. -/
private theorem reads_brackets {first : Term} {more : List (Sign × Term)} (hfirst : first.Spelled)
    (hmore : ∀ x ∈ more, x.2.Spelled) {place : Place} (rest : List Char)
    (hplace : ∀ cs, place.read? ('[' :: cs) = some (.openBracket, .beforeTerm false, 1)) :
    Reads place ('[' :: (first.spelling ++ (moreSpelling more ++ ']' :: rest)))
      (⟨.openBracket, "["⟩ :: (first.lexemes ++ (moreLexemes more ++ [⟨.closeBracket, "]"⟩])))
      (.afterOperand false) rest := by
  have hopen := Reads.char '[' rfl (hplace (first.spelling ++ (moreSpelling more ++ ']' :: rest)))
  have hterm := first.reads hfirst (stops_more more rest)
  have hrest := reads_more hmore first.after_cases rest
  exact hopen.trans (hterm.trans hrest)

private theorem reads_size {size : String} (h : size ∈ sizeTexts) {place : Place}
    (hplace : place.next = Place.afterComma.next) (rest : List Char) :
    Reads place (size.toList ++ ' ' :: rest) [⟨.sizeWord, size⟩] (.afterSize false) rest := by
  have hwords : ∀ s ∈ sizeTexts, ∃ w ∈ sizeWords, s.toList = w.toList ++ [' ', 'p', 't', 'r'] ∧
      w.toList.all Char.isAlphanum ∧ isOneOf sizeWords w.toList ∧ s.toList.head?.any isGap = false := by
    decide
  obtain ⟨w, -, htext, hw, hone, hgap⟩ := hwords size h
  have hlength : Terminal.length? .sizeWord (size.toList ++ ' ' :: rest) = some size.toList.length := by
    rw [htext, List.append_assoc, List.length_append]
    exact Terminal.sizeLength?_ptr (List.all_eq_true.mp hw) hone rfl
  have hread : place.read? (size.toList ++ ' ' :: rest) =
      some (.sizeWord, .afterSize false, size.toList.length) := by
    rw [Place.read?, hplace]
    simp [Place.next, Place.operandStarts, hlength]
  simpa using (Reads.lexeme hgap hread).trans (Reads.gap _ rest)

private theorem reads_memory {size segment : Option String} {first : Term} {more : List (Sign × Term)}
    (h : (memory size segment first more).Spelled) {place : Place}
    (hplace : place.next = Place.afterComma.next) (rest : List Char) :
    Reads place ((memory size segment first more).spelling ++ rest)
      (memory size segment first more).lexemes (.afterOperand false) rest := by
  obtain ⟨hsize, hsegment, hfirst, hmore⟩ := h
  have hstart (cs : List Char) : place.read? ('[' :: cs) = some (.openBracket, .beforeTerm false, 1) := by
    rw [Place.read?, hplace]
    rfl
  -- The brackets follow a colon, the size words, or nothing at all.
  let inside := '[' :: (first.spelling ++ (moreSpelling more ++ ']' :: rest))
  have hbrackets (place : Place)
      (hread : ∀ cs, place.read? ('[' :: cs) = some (.openBracket, .beforeTerm false, 1)) :
      Reads place inside _ (.afterOperand false) rest :=
    reads_brackets hfirst hmore rest hread
  have hcolon (place : Place)
      (hread : ∀ cs, place.read? (':' :: cs) = some (.colon, .beforeBracket false, 1)) :
      Reads place (':' :: inside) _ (.afterOperand false) rest :=
    (Reads.char ':' rfl (hread inside)).trans (hbrackets (.beforeBracket false) fun _ => rfl)
  cases size with
  | none =>
    cases segment with
    | none => simpa [spelling, lexemes] using hbrackets place hstart
    | some s =>
      have hname : Reads place (s.toList ++ ':' :: inside) _ _ _ :=
        Reads.operandName hplace (hsegment s rfl) rfl
      simpa [spelling, lexemes] using hname.trans (hcolon (.afterWord false) fun _ => rfl)
  | some z =>
    have hz := reads_size (hsize z rfl) hplace
    cases segment with
    | none => simpa [spelling, lexemes] using (hz _).trans (hbrackets (.afterSize false) fun _ => rfl)
    | some s =>
      have hname : Reads (.afterSize false) (s.toList ++ ':' :: inside) _ _ _ :=
        Reads.name rfl (hsegment s rfl).1 rfl
      simpa [spelling, lexemes] using
        (hz _).trans (hname.trans (hcolon (.afterSegment false) fun _ => rfl))

/-- The spelling of an operand is read as its lexemes. -/
theorem reads {p : Phrase} (h : p.Spelled) {place : Place} (hplace : place.next = Place.afterComma.next)
    {rest : List Char} (hstop : Stops rest) : Reads place (p.spelling ++ rest) p.lexemes p.after rest := by
  cases p with
  | register name => exact Reads.operandName hplace h hstop
  | number sign text =>
    cases sign with
    | none => exact Reads.operandNumber hplace h hstop
    | some sign =>
      have hsign : place.read? (sign.char :: (text.toList ++ rest)) =
          some (.sign, .beforeNumber false, 1) := by
        rw [Place.read?, hplace]
        cases sign <;> rfl
      exact (Reads.char _ (by cases sign <;> rfl) hsign).trans (Reads.number (.inl rfl) h hstop)
  | shortBranch text =>
    have hshort : place.read? (['s', 'h', 'o', 'r', 't'] ++ ' ' :: (text.toList ++ rest)) =
        some (.shortWord, .beforeNumber false, 5) := by
      rw [Place.read?, hplace]
      rfl
    exact (Reads.lexeme rfl hshort).trans ((Reads.gap _ _).trans (Reads.number (.inl rfl) h hstop))
  | decorator text =>
    have hread : place.read? (text.toList ++ rest) =
        some (.decorator, .afterOperand false, text.toList.length) := by
      rw [Place.read?, hplace]
      simp only [Spelled, Terminal.decorators, List.mem_cons, List.not_mem_nil, or_false] at h
      rcases h with rfl | rfl | rfl | rfl <;> rfl
    have hgap : text.toList.head?.any isGap = false := by
      simp only [Spelled, Terminal.decorators, List.mem_cons, List.not_mem_nil, or_false] at h
      rcases h with rfl | rfl | rfl | rfl <;> rfl
    simpa [spelling, lexemes, after] using Reads.lexeme hgap hread
  | memory size segment first more => exact reads_memory h hplace rest

private theorem ofText_char (sign : Sign) : Sign.ofText (String.singleton sign.char) = sign := by
  cases sign <;> decide

private theorem moreDerive_lexemes (more : List (Sign × Term)) : MoreDerive more (moreLexemes more) := by
  induction more with
  | nil => exact .nil
  | cons x more ih =>
    obtain ⟨sign, term⟩ := x
    have hcons := MoreDerive.cons (String.singleton sign.char) term.derives_lexemes ih
    rwa [ofText_char] at hcons

/-- The lexemes of an operand derive from it. -/
theorem derives_lexemes (p : Phrase) : p.Derives p.lexemes := by
  cases p with
  | register name => exact .register name
  | number sign text =>
    cases sign with
    | none => exact .number text
    | some sign =>
      have hsigned := Derives.signed (String.singleton sign.char) text
      rwa [ofText_char] at hsigned
  | shortBranch text => exact .shortBranch "short" text
  | decorator text => exact .decorator text
  | memory size segment first more =>
    have hsize : SizeDerives size (size.elim [] fun s => [⟨.sizeWord, s⟩]) := by
      cases size with
      | none => exact .none
      | some s => exact .some s
    have hsegment : SegmentDerives segment (segment.elim [] fun s => [⟨.name, s⟩, ⟨.colon, ":"⟩]) := by
      cases segment with
      | none => exact .none
      | some s => exact .some s ":"
    rw [lexemes, List.append_assoc]
    exact .memory "[" "]" hsize hsegment first.derives_lexemes (moreDerive_lexemes more)

end Phrase
end AsmListing
