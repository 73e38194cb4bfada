import Mathlib
import AsmListing.Proofs.Grammar.Acceptance
import AsmListing.Proofs.Grammar.Boundaries

/-! Gaps between lexemes. A gap ends every lexeme, and no name becomes a keyword for the gaps behind it, so
wider gaps leave the lexemes of a text as they are. -/
namespace AsmListing
open Terminal (isNameChar wordOf)

namespace Lexeme
variable {read : List Terminal} {place : Place} {cs w rest rest' : List Char} {c : Char}
  {ls ls' : List Lexeme}

/-- Where a lexeme starts with a character of words, a name could go on. -/
private theorem Cut.isNameChar_head (h : Cut read (c :: cs) ls) (hc : Text.isWordChar c) : isNameChar c := by
  have hgap (hgap : isGap c) : isNameChar c := by
    rw [Text.isWordChar_of_isBlank (isBlank_of_isGap hgap)] at hc
    cases hc
  generalize hcs : c :: cs = ds at h
  cases h with
  | done hgaps =>
    subst hcs
    exact hgap (hgaps c List.mem_cons_self)
  | @take _ gaps w rest t ls hgaps htaken hrest =>
    cases gaps with
    | nil =>
      have hmatch := htaken.length?_eq
      rw [show w ++ rest = c :: cs from hcs.symm] at hmatch
      exact Terminal.isNameChar_of_length? hmatch hc
    | cons g gaps =>
      cases hcs
      exact hgap (hgaps c List.mem_cons_self)

/-- A name is a whole word if the text can be read on. -/
private theorem Cut.wordOf_name (h : Cut read rest ls)
    (hname : Terminal.length? .name (w ++ rest) = some w.length) : wordOf (w ++ rest) = w := by
  obtain ⟨-, htake⟩ := Terminal.nameLength?_append_eq_some.mp hname
  obtain ⟨hw, hend⟩ := takeWhile_append_eq.mp htake
  refine takeWhile_append_eq.mpr ⟨fun c hc => Terminal.isWordChar_of_isNameChar (hw c hc), ?_⟩
  cases rest with
  | nil => rfl
  | cons c rest =>
    by_contra hc
    have hc : isNameChar c := h.isNameChar_head (by simpa using hc)
    simp [hc] at hend

/-- Where an operand may start with a size, a name that stands there is not followed by a word. -/
private theorem Cut.head?_behind_name (h : Cut (read ++ [.name]) rest ls)
    (hread : Place.start.walk? read = some place) (hsize : Allowed read .sizeWord)
    (hname : Allowed read .name) : (rest.dropWhile Text.isBlank).head?.any Text.isWordChar = false := by
  obtain ⟨p, hp⟩ := (Place.allowed_iff hread).mp hsize
  obtain ⟨q, hq⟩ := (Place.allowed_iff hread).mp hname
  obtain ⟨angle, rfl⟩ : ∃ angle, q = .afterWord angle := by
    cases place with
    | start => simp [Place.next] at hp
    | afterMnemonic | afterComma => exact ⟨false, by simpa [Place.next, Place.operandStarts] using hq⟩
    | afterLess => exact ⟨true, by simpa [Place.next, Place.operandStarts] using hq⟩
    | _ angle => cases angle <;> simp [Place.next, Place.operandEnds, Place.termEnds] at hp
  have hdrop {gaps ds : List Char} (hgaps : ∀ c ∈ gaps, isGap c) :
      (gaps ++ ds).dropWhile Text.isBlank = ds.dropWhile Text.isBlank :=
    List.dropWhile_append_of_pos fun c hc => isBlank_of_isGap (hgaps c hc)
  cases h with
  | done hgaps =>
    rw [← List.append_nil rest, hdrop hgaps]
    rfl
  | @take _ gaps w rest t ls hgaps htaken hrest =>
    rw [hdrop hgaps]
    obtain ⟨r, hr⟩ := (Place.allowed_iff (walk?_take hread hq)).mp htaken.allowed
    have hmatch := htaken.length?_eq
    generalize w ++ rest = ds at hmatch
    have hmark {x : Char} (hx : Text.isBlank x = false ∧ Text.isWordChar x = false)
        (h : Terminal.charLength? (· == x) ds = some w.length) :
        (ds.dropWhile Text.isBlank).head?.any Text.isWordChar = false := by
      cases ds with
      | nil => rfl
      | cons c ds =>
        have hc := Terminal.accepts_of_charLength? h
        rw [beq_iff_eq.mp hc]
        simp [hx.1, hx.2]
    have hend : t = .colon ∨ t = .comma ∨ t = .greater := by
      cases angle <;> simp [Place.next, Place.operandEnds] at hr <;> tauto
    rcases hend with rfl | rfl | rfl
    · exact hmark (by decide) hmatch
    · exact hmark (by decide) hmatch
    · exact hmark (by decide) hmatch

/-- A lexeme is still taken if the text behind it can be read and starts as before, or with a gap. -/
private theorem isTaken_respaced {t : Terminal} (h : t.IsTaken read (w ++ rest) w.length)
    (hread : Place.start.walk? read = some place) (hrest : Cut (read ++ [t]) rest ls)
    (hrest' : Cut (read ++ [t]) rest' ls')
    (hstart : rest'.head? = rest.head? ∨ rest'.head?.any isGap) :
    t.IsTaken read (w ++ rest') w.length := by
  have hmatch' : t.length? (w ++ rest') = some w.length := by
    obtain ⟨hw, hend⟩ := Terminal.length?_append_iff.mp h.length?_eq
    refine Terminal.length?_append_iff.mpr ⟨hw, ?_⟩
    rcases hstart with hsame | hgap
    · rwa [hsame]
    · cases rest' with
      | nil => rfl
      | cons c rest' => exact t.goesOn_of_isGap hgap
  refine ⟨h.allowed, by rwa [← Terminal.length?_eq_pattern], ?_⟩
  intro u hne hu hsome
  rw [← Terminal.length?_eq_pattern] at hsome
  obtain ⟨n, hn⟩ := Option.isSome_iff_exists.mp hsome
  by_contra hle
  -- A keyword would be preferred to a name here. Then it stood there before, for the name was a whole
  -- word and is one now.
  obtain ⟨hkeyword, rfl⟩ := Terminal.keyword_of_length? hn hmatch' hne hle
  have hbefore : u.length? (w ++ rest) = some n := by
    refine Terminal.keyword_of_wordOf hkeyword (hrest.wordOf_name h.length?_eq)
      (hrest'.wordOf_name hmatch') ?_ hn
    rintro rfl
    exact hrest'.head?_behind_name hread hu h.allowed
  rw [Terminal.length?_eq_pattern] at hbefore
  exact absurd (h.preferred u hne hu (by rw [hbefore]; rfl)) (Nat.not_lt_zero _)

/-- The second text is the first with gaps put in. -/
inductive Widened : List Char → List Char → Prop
  | nil : Widened [] []
  | keep (c : Char) {cs ds : List Char} (h : Widened cs ds) : Widened (c :: cs) (c :: ds)
  | insert {c : Char} {cs ds : List Char} (hc : isGap c) (h : Widened cs ds) : Widened cs (c :: ds)

/-- What holds of all gaps and of the characters that were there holds of all that are there. -/
theorem Widened.forall_mem {P : Char → Prop} {ds : List Char} (h : Widened cs ds)
    (hgap : ∀ c, isGap c → P c) (hcs : ∀ c ∈ cs, P c) : ∀ c ∈ ds, P c := by
  induction h with
  | nil => exact hcs
  | keep c h ih =>
    obtain ⟨hc, hcs⟩ := List.forall_mem_cons.mp hcs
    exact List.forall_mem_cons.mpr ⟨hc, ih hcs⟩
  | insert hc h ih => exact List.forall_mem_cons.mpr ⟨hgap _ hc, ih hcs⟩

theorem Widened.refl (cs : List Char) : Widened cs cs := by
  induction cs with
  | nil => exact .nil
  | cons c cs ih => exact .keep c ih

theorem Widened.append {ds cs' ds' : List Char} (h : Widened cs ds) (h' : Widened cs' ds') :
    Widened (cs ++ cs') (ds ++ ds') := by
  induction h with
  | nil => exact h'
  | keep c h ih => exact .keep c ih
  | insert hc h ih => exact .insert hc ih

theorem Widened.head? {ds : List Char} (h : Widened cs ds) : ds.head? = cs.head? ∨ ds.head?.any isGap := by
  cases h with
  | nil => exact .inl rfl
  | keep c h => exact .inl rfl
  | insert hc h => exact .inr hc

/-- Lexemes, each behind its gap. -/
def behindGaps (gaps : List (List Char)) (ls : List Lexeme) : List Char :=
  (List.zipWith (fun g l => g ++ l.text.toList) gaps ls).flatten

theorem behindGaps_cons (g : List Char) (gaps : List (List Char)) (l : Lexeme) (ls : List Lexeme) :
    behindGaps (g :: gaps) (l :: ls) = g ++ (l.text.toList ++ behindGaps gaps ls) := by
  simp [behindGaps]

theorem widened_behindGaps {gaps gaps' : List (List Char)} (h : List.Forall₂ Widened gaps gaps')
    (ls : List Lexeme) : Widened (behindGaps gaps ls) (behindGaps gaps' ls) := by
  induction h generalizing ls with
  | nil => exact .refl _
  | cons hg hgaps ih =>
    cases ls with
    | nil => exact .nil
    | cons l ls =>
      rw [behindGaps_cons, behindGaps_cons]
      exact hg.append ((Widened.refl _).append (ih ls))

/-- The text consists of the lexemes, with blanks before each of them and at the end. -/
structure IsSpaced (cs : List Char) (ls : List Lexeme) (gaps : List (List Char)) (back : List Char) :
    Prop where
  text : cs = behindGaps gaps ls ++ back
  count : gaps.length = ls.length
  gaps_blank : ∀ g ∈ gaps, ∀ c ∈ g, Text.isBlank c
  back_blank : ∀ c ∈ back, Text.isBlank c

variable {gaps gaps' : List (List Char)} {back back' : List Char}

/-- A text that is cut into lexemes consists of them and the gaps around them. -/
theorem Cut.exists_isSpaced (h : Cut read cs ls) : ∃ gaps back, IsSpaced cs ls gaps back := by
  induction h with
  | @done read back hback =>
    exact ⟨[], back, rfl, rfl, by simp, fun c hc => isBlank_of_isGap (hback c hc)⟩
  | @take read g w rest t ls hg htaken hrest ih =>
    obtain ⟨gaps, back, hrest, hcount, hgaps, hback⟩ := ih
    refine ⟨g :: gaps, back, ?_, by simp [hcount], ?_, hback⟩
    · rw [behindGaps_cons, String.toList_ofList, List.append_assoc, List.append_assoc, hrest]
    · exact List.forall_mem_cons.mpr ⟨fun c hc => isBlank_of_isGap (hg c hc), hgaps⟩

theorem Cut.isTrimmed (h : Cut read cs ls) : ∀ l ∈ ls, Text.IsTrimmed l.text.toList := by
  induction h with
  | done hgaps => simp
  | take hgaps htaken hrest ih =>
    refine List.forall_mem_cons.mpr ⟨?_, ih⟩
    rw [String.toList_ofList]
    exact htaken.isTrimmed

/-- With wider gaps a text is cut into the same lexemes. -/
theorem Cut.widen (h : Cut read cs ls) (hread : Place.start.walk? read = some place)
    (hspaced : IsSpaced cs ls gaps back) (hgaps : List.Forall₂ Widened gaps gaps')
    (hback : Widened back back') : Cut read (behindGaps gaps' ls ++ back') ls := by
  induction h generalizing place gaps gaps' with
  | @done read cs hcs =>
    obtain rfl := List.length_eq_zero_iff.mp hspaced.count
    cases hgaps
    have htext : cs = back := hspaced.text
    rw [htext] at hcs
    exact .done (hback.forall_mem (fun _ hc => hc) hcs)
  | @take read g w rest t ls hg htaken hrest ih =>
    cases hgaps with
    | nil => cases hspaced.count
    | @cons a b gaps gaps' hwide hgaps =>
      obtain ⟨q, hq⟩ := (Place.allowed_iff hread).mp htaken.allowed
      obtain ⟨htext, hcount, hblank, hend⟩ := hspaced
      obtain ⟨ha, hblanks⟩ := List.forall_mem_cons.mp hblank
      rw [behindGaps_cons, String.toList_ofList, List.append_assoc, List.append_assoc] at htext
      -- Both gaps reach to the first character that is no blank.
      have hreach {b ds : List Char} (hb : ∀ c ∈ b, Text.isBlank c) :
          (b ++ (w ++ ds)).takeWhile Text.isBlank = b := by
        refine takeWhile_append_eq.mpr ⟨hb, ?_⟩
        have hw := htaken.isTrimmed.head
        cases w with
        | nil => cases hw
        | cons c w => simpa using hw
      have hgap : g = a := by
        rw [← hreach fun c hc => isBlank_of_isGap (hg c hc), htext, hreach ha]
      subst hgap
      rw [List.append_cancel_left_eq, List.append_cancel_left_eq] at htext
      have hrest' := ih (walk?_take hread hq) ⟨htext, Nat.succ.inj hcount, hblanks, hend⟩ hgaps
      have hwhole : Widened rest (behindGaps gaps' ls ++ back') := by
        rw [htext]
        exact (widened_behindGaps hgaps ls).append hback
      rw [behindGaps_cons, List.append_assoc, List.append_assoc, String.toList_ofList]
      exact .take (hwide.forall_mem (fun _ hc => hc) hg)
        (isTaken_respaced htaken hread hrest hrest' hwhole.head?) hrest'

private theorem isTrimmed_behindGaps {l : Lexeme} (hls : ∀ m ∈ l :: ls, Text.IsTrimmed m.text.toList)
    (hcount : gaps.length = ls.length) : Text.IsTrimmed (l.text.toList ++ behindGaps gaps ls) := by
  induction ls generalizing l gaps with
  | nil =>
    obtain rfl := List.length_eq_zero_iff.mp hcount
    simpa [behindGaps] using hls
  | cons m ls ih =>
    cases gaps with
    | nil => cases hcount
    | cons g gaps =>
      obtain ⟨hl, hls⟩ := List.forall_mem_cons.mp hls
      rw [behindGaps_cons]
      exact hl.append (ih hls (Nat.succ.inj hcount)) g

/-- The outer blanks of a spaced text are those before the first lexeme and behind the last. -/
private theorem IsSpaced.trim {l : Lexeme} {g : List Char} (h : IsSpaced cs (l :: ls) (g :: gaps) back)
    (hls : ∀ m ∈ l :: ls, Text.IsTrimmed m.text.toList) :
    Text.trim cs = l.text.toList ++ behindGaps gaps ls := by
  obtain ⟨hg, -⟩ := List.forall_mem_cons.mp h.gaps_blank
  rw [h.text, behindGaps_cons, List.append_assoc]
  exact (isTrimmed_behindGaps hls (Nat.succ.inj h.count)).trim_append hg h.back_blank

theorem IsSpaced.widen (h : IsSpaced cs ls gaps back) (hgaps : List.Forall₂ Widened gaps gaps')
    (hback : Widened back back') : IsSpaced (behindGaps gaps' ls ++ back') ls gaps' back' := by
  have hblank {c : Char} (hc : isGap c) : Text.isBlank c := isBlank_of_isGap hc
  refine ⟨rfl, hgaps.length_eq.symm.trans h.count, ?_, hback.forall_mem (fun _ => hblank) h.back_blank⟩
  have hall := h.gaps_blank
  clear h
  induction hgaps with
  | nil => exact hall
  | cons hg hgaps ih =>
    obtain ⟨hfirst, hall⟩ := List.forall_mem_cons.mp hall
    exact List.forall_mem_cons.mpr ⟨hg.forall_mem (fun _ => hblank) hfirst, ih hall⟩

private theorem IsSplit.exists_cons {text : String} (h : IsSplit text ls) : ∃ l ms, ls = l :: ms := by
  cases ls with
  | nil =>
    have hends : Place.start.accepts := Place.isSentence_iff.mp h.2
    cases hends
  | cons l ms => exact ⟨l, ms, rfl⟩

/-- A text that is split into lexemes consists of them and the blanks around them. -/
theorem IsSplit.exists_isSpaced {text : String} (h : IsSplit text ls) :
    ∃ gaps back, IsSpaced text.toList ls gaps back := by
  obtain ⟨l, ms, rfl⟩ := h.exists_cons
  obtain ⟨gaps, back, htext, hcount, hgaps, hback⟩ := h.1.exists_isSpaced
  obtain ⟨front, behind, hwhole, hfront, hbehind⟩ := Text.exists_trim_append text.toList
  cases gaps with
  | nil => cases hcount
  | cons g gaps =>
    obtain ⟨hg, hgaps⟩ := List.forall_mem_cons.mp hgaps
    refine ⟨(front ++ g) :: gaps, back ++ behind, ?_, hcount, ?_, ?_⟩
    · rw [hwhole, htext, behindGaps_cons, behindGaps_cons]
      simp
    · exact List.forall_mem_cons.mpr ⟨List.forall_mem_append.mpr ⟨hfront, hg⟩, hgaps⟩
    · exact List.forall_mem_append.mpr ⟨hback, hbehind⟩

/-- With wider gaps a text is split into the same lexemes. -/
theorem IsSplit.widen {text : String} (h : IsSplit text ls) (hspaced : IsSpaced text.toList ls gaps back)
    (hgaps : List.Forall₂ Widened gaps gaps') (hback : Widened back back') :
    IsSplit (String.ofList (behindGaps gaps' ls ++ back')) ls := by
  obtain ⟨l, ms, rfl⟩ := h.exists_cons
  obtain ⟨hcut, hsentence⟩ := h
  refine ⟨?_, hsentence⟩
  have hls := hcut.isTrimmed
  cases hgaps with
  | nil => cases hspaced.count
  | @cons g g' gaps gaps' hg hgaps =>
    have hspaced' := hspaced.widen (.cons hg hgaps) hback
    -- Between the outer blanks the first gap is empty, and nothing stands behind the last lexeme.
    have hinner : IsSpaced (l.text.toList ++ behindGaps gaps ms) (l :: ms) ([] :: gaps) [] := by
      obtain ⟨-, hblank⟩ := List.forall_mem_cons.mp hspaced.gaps_blank
      refine ⟨?_, hspaced.count, List.forall_mem_cons.mpr ⟨by simp, hblank⟩, by simp⟩
      rw [behindGaps_cons, List.append_nil]
      rfl
    rw [hspaced.trim hls] at hcut
    have hcut' := hcut.widen rfl hinner (.cons .nil hgaps) .nil
    rw [behindGaps_cons, List.append_nil] at hcut'
    rw [String.toList_ofList, hspaced'.trim hls]
    exact hcut'

end Lexeme

/-- Blanks between lexemes do not matter. An accepted text consists of its lexemes and the blanks before
and behind them, and stays the same instruction when gaps are put in at any of these places. -/
theorem Instruction.read_of_wider_gaps {text : String} {i : Instruction} (h : read text = .ok i) :
    (∃ ls gaps back, Lexeme.IsSplit text ls ∧ Lexeme.IsSpaced text.toList ls gaps back) ∧
    ∀ ls gaps back gaps' back', Lexeme.IsSplit text ls → Lexeme.IsSpaced text.toList ls gaps back →
      List.Forall₂ Lexeme.Widened gaps gaps' → Lexeme.Widened back back' →
        read (String.ofList (Lexeme.behindGaps gaps' ls ++ back')) = .ok i := by
  rw [read] at h
  split at h
  · cases h
  · next s hparse =>
    obtain ⟨ls, hsplit, hderives⟩ := Sentence.parse?_eq_some.mp hparse
    refine ⟨⟨ls, ?_⟩, ?_⟩
    · obtain ⟨gaps, back, hspaced⟩ := hsplit.exists_isSpaced
      exact ⟨gaps, back, hsplit, hspaced⟩
    · intro ms gaps back gaps' back' hms hspaced hgaps hback
      obtain rfl : ms = ls := hms.unique hsplit
      have hparse' := Sentence.parse?_eq_some.mpr ⟨ms, hms.widen hspaced hgaps hback, hderives⟩
      rw [read, hparse']
      exact Outcome.mapError_eq_ok.mpr (Outcome.mapError_eq_ok.mp h)

/-- Gaps are put in before the brackets, inside of them and at the ends. -/
theorem Instruction.read_of_wider_gaps_brackets :
    let i : Instruction :=
      { mnemonic := "neg", operands := [{ kind := .memory, size := 4, base := .register .rax }] }
    read "\x1cneg dword ptr[rax]" = .ok i ∧
      read "\x1c\nneg \tdword ptr\r[\x0crax ]\r\n" = .ok i := by
  intro i
  have hparse : Sentence.parse? "\x1cneg dword ptr[rax]" =
      some ⟨[], "neg", [⟨.memory (some "dword ptr") none (.register "rax") [], false⟩]⟩ := by
    decide
  have hread : read "\x1cneg dword ptr[rax]" = .ok i := by
    rw [read, hparse]
    rfl
  refine ⟨hread, ?_⟩
  let ls : List Lexeme := [⟨.name, "neg"⟩, ⟨.sizeWord, "dword ptr"⟩, ⟨.openBracket, "["⟩, ⟨.name, "rax"⟩,
    ⟨.closeBracket, "]"⟩]
  let gaps := [['\x1c'], [' '], [], [], []]
  let gaps' := [['\x1c', '\n'], [' ', '\t'], ['\r'], ['\x0c'], [' ']]
  have hsplit : Lexeme.IsSplit "\x1cneg dword ptr[rax]" ls := Lexeme.isSplit_iff.mpr (by decide +kernel)
  have hspaced : Lexeme.IsSpaced "\x1cneg dword ptr[rax]".toList ls gaps [] :=
    ⟨by decide, rfl, by simpa [gaps] using ⟨rfl, rfl⟩, by simp⟩
  have hone {c : Char} (hc : isGap c) : Lexeme.Widened [] [c] := .insert hc .nil
  have hgaps : List.Forall₂ Lexeme.Widened gaps gaps' :=
    .cons (.keep _ (hone rfl)) (.cons (.keep _ (hone rfl)) (.cons (hone rfl) (.cons (hone rfl)
      (.cons (hone rfl) .nil))))
  have hback : Lexeme.Widened [] ['\r', '\n'] := .insert rfl (hone rfl)
  exact (read_of_wider_gaps hread).2 ls gaps [] gaps' _ hsplit hspaced hgaps hback

end AsmListing
