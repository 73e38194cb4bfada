import Mathlib
import AsmListing.Reader.Sentence

/-! The grammar of instruction texts, rule by rule. A sentence records every choice that a derivation
makes. Lexemes derive from a sentence just if it is the one that is read from them, so no lexemes have
two derivations. -/
namespace AsmListing

/-- A summand is a name times a number, a name, or a number. -/
inductive Term.Derives : Term → List Lexeme → Prop
  | scaled (r star k : String) : Derives (.scaled r k) [⟨.name, r⟩, ⟨.star, star⟩, ⟨.number, k⟩]
  | register (r : String) : Derives (.register r) [⟨.name, r⟩]
  | number (n : String) : Derives (.number n) [⟨.number, n⟩]

namespace Phrase

/-- Any number of summands, each behind a sign. -/
inductive MoreDerive : List (Sign × Term) → List Lexeme → Prop
  | nil : MoreDerive [] []
  | cons (s : String) {t : Term} {more : List (Sign × Term)} {ls ms : List Lexeme}
      (first : t.Derives ls) (rest : MoreDerive more ms) :
      MoreDerive ((Sign.ofText s, t) :: more) (⟨.sign, s⟩ :: (ls ++ ms))

inductive SizeDerives : Option String → List Lexeme → Prop
  | none : SizeDerives none []
  | some (s : String) : SizeDerives (some s) [⟨.sizeWord, s⟩]

/-- A segment is a name before a colon. -/
inductive SegmentDerives : Option String → List Lexeme → Prop
  | none : SegmentDerives none []
  | some (s colon : String) : SegmentDerives (some s) [⟨.name, s⟩, ⟨.colon, colon⟩]

/-- An operand is a register, a number with or without a sign, the target of a short branch, a
decorator, or a sum in brackets with or without a size and a segment. -/
inductive Derives : Phrase → List Lexeme → Prop
  | register (r : String) : Derives (.register r) [⟨.name, r⟩]
  | number (n : String) : Derives (.number none n) [⟨.number, n⟩]
  | signed (s n : String) : Derives (.number (some (Sign.ofText s)) n) [⟨.sign, s⟩, ⟨.number, n⟩]
  | shortBranch (w n : String) : Derives (.shortBranch n) [⟨.shortWord, w⟩, ⟨.number, n⟩]
  | decorator (d : String) : Derives (.decorator d) [⟨.decorator, d⟩]
  | memory (o c : String) {size segment : Option String} {first : Term} {more : List (Sign × Term)}
      {zs ss ls ms : List Lexeme} (hsize : SizeDerives size zs) (hsegment : SegmentDerives segment ss)
      (hfirst : first.Derives ls) (hmore : MoreDerive more ms) :
      Derives (.memory size segment first more)
        (zs ++ (ss ++ ⟨.openBracket, o⟩ :: (ls ++ (ms ++ [⟨.closeBracket, c⟩]))))

end Phrase

/-- An operand may stand in angle brackets. -/
inductive OperandPhrase.Derives : OperandPhrase → List Lexeme → Prop
  | implicit (l g : String) {p : Phrase} {ls : List Lexeme} (h : p.Derives ls) :
      Derives ⟨p, true⟩ (⟨.less, l⟩ :: (ls ++ [⟨.greater, g⟩]))
  | explicit {p : Phrase} {ls : List Lexeme} (h : p.Derives ls) : Derives ⟨p, false⟩ ls

namespace Sentence

/-- Operands stand between commas. -/
inductive OperandsDerive : List OperandPhrase → List Lexeme → Prop
  | last {p : OperandPhrase} {ls : List Lexeme} (h : p.Derives ls) : OperandsDerive [p] ls
  | cons (c : String) {p : OperandPhrase} {ps : List OperandPhrase} {ls ms : List Lexeme}
      (first : p.Derives ls) (rest : OperandsDerive ps ms) :
      OperandsDerive (p :: ps) (ls ++ ⟨.comma, c⟩ :: ms)

/-- An instruction is a mnemonic behind any number of prefixes, with or without operands. -/
inductive Derives : Sentence → List Lexeme → Prop
  | bare (words : List String) (m : String) :
      Derives ⟨words, m, []⟩ (words.map (⟨.prefixWord, ·⟩) ++ [⟨.name, m⟩])
  | operands (words : List String) (m : String) {ps : List OperandPhrase} {ls : List Lexeme}
      (h : OperandsDerive ps ls) :
      Derives ⟨words, m, ps⟩ (words.map (⟨.prefixWord, ·⟩) ++ ⟨.name, m⟩ :: ls)

end Sentence

namespace Phrase
variable {ls : List Lexeme} {size segment : Option String} {more : List (Sign × Term)} {p : Phrase}

/-- The lexemes after a summand start with a sign or the closing bracket, so that a name in front of
them is not taken for a factor. -/
private theorem MoreDerive.ne_star (h : MoreDerive more ls) {star k c : String} {rest : List Lexeme} :
    ls ++ [⟨.closeBracket, c⟩] ≠ ⟨.star, star⟩ :: ⟨.number, k⟩ :: rest := by
  cases h <;> simp

theorem terms?_eq_some : terms? ls = some more ↔
    ∃ ms c, ls = ms ++ [⟨.closeBracket, c⟩] ∧ MoreDerive more ms := by
  have hfound {s : String} {t : Term} {as rest : List Lexeme} {more : List (Sign × Term)}
      (ht : t.Derives as)
      (ih : ∀ {more}, terms? rest = some more →
        ∃ ms c, rest = ms ++ [⟨.closeBracket, c⟩] ∧ MoreDerive more ms)
      (h : (terms? rest).map ((Sign.ofText s, t) :: ·) = some more) :
      ∃ ms c, ⟨.sign, s⟩ :: (as ++ rest) = ms ++ [⟨.closeBracket, c⟩] ∧ MoreDerive more ms := by
    obtain ⟨more, hrest, rfl⟩ := Option.map_eq_some_iff.mp h
    obtain ⟨ms, c, rfl, hms⟩ := ih hrest
    exact ⟨⟨.sign, s⟩ :: (as ++ ms), c, by simp, .cons s ht hms⟩
  constructor
  · intro h
    fun_induction terms? ls generalizing more with
    | case1 c =>
      cases h
      exact ⟨[], c, rfl, .nil⟩
    | case2 s r star k rest ih => exact hfound (.scaled r star k) ih h
    | case3 s r rest _ ih => exact hfound (.register r) ih h
    | case4 s n rest ih => exact hfound (.number n) ih h
    | case5 => cases h
  · rintro ⟨ms, c, rfl, hms⟩
    induction hms with
    | nil => rfl
    | cons s first rest ih =>
      cases first with
      | scaled r star k => simp [terms?, ih]
      | number n => simp [terms?, ih]
      | register r =>
        -- The equation for a name by itself asks that no factor follows it.
        rw [List.cons_append, List.append_assoc, List.singleton_append, terms?, ih]
        · rfl
        · exact fun _ _ _ => rest.ne_star

theorem bracketed?_eq_some : bracketed? size segment ls = some p ↔ ∃ first more as ms c,
    p = .memory size segment first more ∧ ls = as ++ (ms ++ [⟨.closeBracket, c⟩]) ∧
      first.Derives as ∧ MoreDerive more ms := by
  have hfound {t : Term} {as rest : List Lexeme} (ht : t.Derives as)
      (h : (terms? rest).map (.memory size segment t) = some p) : ∃ first more bs ms c,
        p = .memory size segment first more ∧ as ++ rest = bs ++ (ms ++ [⟨.closeBracket, c⟩]) ∧
          first.Derives bs ∧ MoreDerive more ms := by
    obtain ⟨more, hrest, rfl⟩ := Option.map_eq_some_iff.mp h
    obtain ⟨ms, c, rfl, hms⟩ := terms?_eq_some.mp hrest
    exact ⟨t, more, as, ms, c, rfl, rfl, ht, hms⟩
  constructor
  · fun_cases bracketed? size segment ls with
    | case1 r star k rest => exact hfound (.scaled r star k)
    | case2 r rest => exact hfound (.register r)
    | case3 n rest => exact hfound (.number n)
    | case4 => exact nofun
  · rintro ⟨first, more, as, ms, c, rfl, rfl, hfirst, hms⟩
    have hmore := terms?_eq_some.mpr ⟨ms, c, rfl, hms⟩
    cases hfirst with
    | scaled r star k => simp [bracketed?, hmore]
    | number n => simp [bracketed?, hmore]
    | register r =>
      rw [List.singleton_append, bracketed?, hmore]
      · rfl
      · exact fun _ _ _ => hms.ne_star

theorem memory?_eq_some : memory? size ls = some p ↔ ∃ segment first more ss as ms o c,
    p = .memory size segment first more ∧
      ls = ss ++ ⟨.openBracket, o⟩ :: (as ++ (ms ++ [⟨.closeBracket, c⟩])) ∧
      SegmentDerives segment ss ∧ first.Derives as ∧ MoreDerive more ms := by
  constructor
  · fun_cases memory? size ls with
    | case1 s colon o rest =>
      intro h
      obtain ⟨first, more, as, ms, c, rfl, rfl, hfirst, hms⟩ := bracketed?_eq_some.mp h
      exact ⟨some s, first, more, _, as, ms, o, c, rfl, rfl, .some s colon, hfirst, hms⟩
    | case2 o rest =>
      intro h
      obtain ⟨first, more, as, ms, c, rfl, rfl, hfirst, hms⟩ := bracketed?_eq_some.mp h
      exact ⟨none, first, more, [], as, ms, o, c, rfl, rfl, .none, hfirst, hms⟩
    | case3 => exact nofun
  · rintro ⟨segment, first, more, ss, as, ms, o, c, rfl, rfl, hsegment, hfirst, hms⟩
    have hinside (segment : Option String) :=
      @bracketed?_eq_some _ size segment _ |>.mpr ⟨first, more, as, ms, c, rfl, rfl, hfirst, hms⟩
    cases hsegment <;> simp [memory?, hinside]

/-- An operand is read from lexemes just if they derive from it. -/
theorem ofLexemes?_eq_some : ofLexemes? ls = some p ↔ p.Derives ls := by
  constructor
  · fun_cases ofLexemes? ls with
    | case1 r => rintro ⟨⟩; exact .register r
    | case2 n => rintro ⟨⟩; exact .number n
    | case3 s n => rintro ⟨⟩; exact .signed s n
    | case4 w n => rintro ⟨⟩; exact .shortBranch w n
    | case5 d => rintro ⟨⟩; exact .decorator d
    | case6 size rest =>
      intro h
      obtain ⟨segment, first, more, ss, as, ms, o, c, rfl, rfl, hsegment, hfirst, hms⟩ :=
        memory?_eq_some.mp h
      exact .memory o c (.some size) hsegment hfirst hms
    | case7 =>
      intro h
      obtain ⟨segment, first, more, ss, as, ms, o, c, rfl, rfl, hsegment, hfirst, hms⟩ :=
        memory?_eq_some.mp h
      exact .memory o c .none hsegment hfirst hms
  · intro h
    cases h with
    | register | number | signed | shortBranch | decorator => rfl
    | @memory o c size segment first more zs ss as ms hsize hsegment hfirst hms =>
      have hinside (size : Option String) :=
        @memory?_eq_some _ size _ |>.mpr
          ⟨segment, first, more, ss, as, ms, o, c, rfl, rfl, hsegment, hfirst, hms⟩
      cases hsize with
      | some s => exact hinside (some s)
      | none =>
        rw [List.nil_append, ← hinside none]
        cases hsegment <;> rfl

/-- An operand outside angle brackets does not start with one. -/
private theorem Derives.enclosed?_eq_none (h : p.Derives ls) : enclosed? ls = none := by
  cases h with
  | register | number | signed | shortBranch | decorator => rfl
  | memory o c hsize hsegment _ _ => cases hsize <;> cases hsegment <;> rfl

private theorem Derives.ne_comma (h : p.Derives ls) : ∀ l ∈ ls, l.terminal ≠ .comma := by
  have hterm {t : Term} {as : List Lexeme} (h : t.Derives as) : ∀ l ∈ as, l.terminal ≠ .comma := by
    cases h <;> simp
  have hmore {more : List (Sign × Term)} {ms : List Lexeme} (h : MoreDerive more ms) :
      ∀ l ∈ ms, l.terminal ≠ .comma := by
    induction h with
    | nil => simp
    | cons s first _ ih => simpa [or_imp, forall_and] using ⟨hterm first, ih⟩
  cases h with
  | register | number | signed | shortBranch | decorator => simp
  | memory o c hsize hsegment hfirst hms =>
    have hinside := And.intro (hterm hfirst) (hmore hms)
    cases hsize <;> cases hsegment <;> simpa [or_imp, forall_and] using hinside

end Phrase

namespace OperandPhrase
variable {ls : List Lexeme} {p : OperandPhrase}

private theorem enclosed?_eq_some {inner : List Lexeme} : enclosed? ls = some inner ↔
    ∃ l g, ls = ⟨.less, l⟩ :: (inner ++ [⟨.greater, g⟩]) := by
  constructor
  · fun_cases enclosed? ls with
    | case1 l rest hlast =>
      rintro ⟨⟩
      cases hend : rest.getLast? with
      | none => simp [hend] at hlast
      | some last =>
        obtain ⟨t, g⟩ := last
        have ht : t = .greater := by simpa [hend] using hlast
        refine ⟨l, g, ?_⟩
        rw [← ht, List.dropLast_append_getLast? _ hend]
    | case2 => exact nofun
    | case3 => exact nofun
  · rintro ⟨l, g, rfl⟩
    simp [enclosed?]

theorem ofLexemes?_eq_some : ofLexemes? ls = some p ↔ p.Derives ls := by
  constructor
  · intro h
    rw [ofLexemes?] at h
    split at h
    · next inner hinner =>
      obtain ⟨l, g, rfl⟩ := enclosed?_eq_some.mp hinner
      obtain ⟨q, hq, rfl⟩ := Option.map_eq_some_iff.mp h
      exact .implicit l g (Phrase.ofLexemes?_eq_some.mp hq)
    · obtain ⟨q, hq, rfl⟩ := Option.map_eq_some_iff.mp h
      exact .explicit (Phrase.ofLexemes?_eq_some.mp hq)
  · intro h
    cases h with
    | implicit l g h =>
      simp [ofLexemes?, enclosed?_eq_some.mpr ⟨l, g, rfl⟩, Phrase.ofLexemes?_eq_some.mpr h]
    | explicit h => simp [ofLexemes?, h.enclosed?_eq_none, Phrase.ofLexemes?_eq_some.mpr h]

private theorem Derives.ne_comma (h : p.Derives ls) : ∀ l ∈ ls, l.terminal ≠ .comma := by
  cases h with
  | implicit l g h => simpa [or_imp, forall_and] using h.ne_comma
  | explicit h => exact h.ne_comma

end OperandPhrase

section Commas
variable {ls rest : List Lexeme}

private theorem exists_comma (ls : List Lexeme) : (∀ l ∈ ls, l.terminal ≠ .comma) ∨
    ∃ piece c rest, ls = piece ++ ⟨.comma, c⟩ :: rest ∧ ∀ l ∈ piece, l.terminal ≠ .comma := by
  induction ls with
  | nil => exact .inl (by simp)
  | cons l ls ih =>
    obtain ⟨t, c⟩ := l
    by_cases ht : t = .comma
    · exact .inr ⟨[], c, ls, by rw [ht]; rfl, by simp⟩
    · rcases ih with hnone | ⟨piece, d, rest, rfl, hpiece⟩
      · exact .inl (List.forall_mem_cons.mpr ⟨ht, hnone⟩)
      · exact .inr ⟨_ :: piece, d, rest, rfl, List.forall_mem_cons.mpr ⟨ht, hpiece⟩⟩

private theorem splitAtCommas_of_ne_comma (h : ∀ l ∈ ls, l.terminal ≠ .comma) :
    splitAtCommas ls = [ls] := by
  induction ls with
  | nil => rfl
  | cons l ls ih =>
    obtain ⟨hl, hls⟩ := List.forall_mem_cons.mp h
    rw [splitAtCommas, if_neg hl, ih hls]

private theorem splitAtCommas_piece (h : ∀ l ∈ ls, l.terminal ≠ .comma) (c : String) :
    splitAtCommas (ls ++ ⟨.comma, c⟩ :: rest) = ls :: splitAtCommas rest := by
  induction ls with
  | nil => rfl
  | cons l ls ih =>
    obtain ⟨hl, hls⟩ := List.forall_mem_cons.mp h
    rw [List.cons_append, splitAtCommas, if_neg hl, ih hls]

end Commas

namespace Sentence
variable {ls : List Lexeme} {ps : List OperandPhrase} {s : Sentence}

private theorem mapM_cons_eq_some {α β : Type} {f : α → Option β} {x : α} {xs : List α} {ys : List β} :
    (x :: xs).mapM f = some ys ↔ ∃ y zs, f x = some y ∧ xs.mapM f = some zs ∧ ys = y :: zs := by
  simp only [List.mapM_cons, bind, Option.bind_eq_some_iff, pure, Option.some.injEq]
  constructor
  · rintro ⟨y, hy, zs, hzs, rfl⟩
    exact ⟨y, zs, hy, hzs, rfl⟩
  · rintro ⟨y, zs, hy, hzs, rfl⟩
    exact ⟨y, hy, zs, hzs, rfl⟩

/-- The pieces between commas are read as operands just if all derive from them. -/
theorem mapM_splitAtCommas_eq_some :
    (splitAtCommas ls).mapM OperandPhrase.ofLexemes? = some ps ↔ OperandsDerive ps ls := by
  constructor
  · intro h
    induction ps generalizing ls with
    | nil =>
      rcases exists_comma ls with hnone | ⟨piece, c, rest, rfl, hpiece⟩
      · rw [splitAtCommas_of_ne_comma hnone, mapM_cons_eq_some] at h
        simp at h
      · rw [splitAtCommas_piece hpiece, mapM_cons_eq_some] at h
        simp at h
    | cons p ps ih =>
      rcases exists_comma ls with hnone | ⟨piece, c, rest, rfl, hpiece⟩
      · rw [splitAtCommas_of_ne_comma hnone, mapM_cons_eq_some] at h
        obtain ⟨q, qs, hq, ⟨⟩, ⟨⟩⟩ := h
        exact .last (OperandPhrase.ofLexemes?_eq_some.mp hq)
      · rw [splitAtCommas_piece hpiece, mapM_cons_eq_some] at h
        obtain ⟨q, qs, hq, hqs, ⟨⟩⟩ := h
        exact .cons c (OperandPhrase.ofLexemes?_eq_some.mp hq) (ih hqs)
  · intro h
    induction h with
    | last h =>
      rw [splitAtCommas_of_ne_comma h.ne_comma, mapM_cons_eq_some]
      exact ⟨_, [], OperandPhrase.ofLexemes?_eq_some.mpr h, rfl, rfl⟩
    | cons c first rest ih =>
      rw [splitAtCommas_piece first.ne_comma, mapM_cons_eq_some]
      exact ⟨_, _, OperandPhrase.ofLexemes?_eq_some.mpr first, ih, rfl⟩

private theorem OperandsDerive.ne_nil (h : OperandsDerive ps ls) : ls ≠ [] := by
  rintro rfl
  have hsplit := mapM_splitAtCommas_eq_some.mpr h
  cases hsplit

private theorem eq_prefixes_append (ls : List Lexeme) :
    ls = ((ls.takeWhile fun l => l.terminal = .prefixWord).map Lexeme.text).map
      (Lexeme.mk .prefixWord) ++ ls.dropWhile fun l => l.terminal = .prefixWord := by
  induction ls with
  | nil => rfl
  | cons l ls ih =>
    obtain ⟨t, w⟩ := l
    by_cases ht : t = .prefixWord
    · simpa [ht] using ih
    · simp [ht]

/-- A sentence is read from lexemes just if they derive from it. -/
theorem ofLexemes?_eq_some : ofLexemes? ls = some s ↔ s.Derives ls := by
  constructor
  · intro h
    rw [eq_prefixes_append ls]
    rw [ofLexemes?] at h
    split at h
    · next m hrest =>
      cases h
      rw [hrest]
      exact .bare _ m
    · next m rest _ hrest =>
      obtain ⟨ps, hps, rfl⟩ := Option.map_eq_some_iff.mp h
      rw [hrest]
      exact .operands _ m (mapM_splitAtCommas_eq_some.mp hps)
    · cases h
  · have hmark (words : List String) : ∀ l ∈ words.map (Lexeme.mk .prefixWord),
        decide (l.terminal = .prefixWord) = true := by
      simp
    intro h
    cases h with
    | bare words m =>
      rw [ofLexemes?, List.takeWhile_append_of_pos (hmark words),
        List.dropWhile_append_of_pos (hmark words)]
      simp [Function.comp_def]
    | @operands words m ps rest h =>
      have hrest := mapM_splitAtCommas_eq_some.mpr h
      rw [ofLexemes?, List.takeWhile_append_of_pos (hmark words),
        List.dropWhile_append_of_pos (hmark words)]
      obtain ⟨l, rest, rfl⟩ := List.exists_cons_of_ne_nil h.ne_nil
      simp [Function.comp_def, hrest]

end Sentence
end AsmListing
