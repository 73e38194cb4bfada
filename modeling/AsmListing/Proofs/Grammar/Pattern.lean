import Mathlib
import AsmListing.Reader.Terminal

/-! Regular expressions. Matches are tried in an order: alternatives as they are written, and
repetitions as often as possible first. -/
namespace AsmListing
open Terminal (foldLetter isOneOf)

inductive Pattern where
  /-- A character of a class. -/
  | one (accepts : Char → Bool)
  /-- Characters of a class, as many of them as possible. -/
  | many (accepts : Char → Bool)
  /-- One of the words, without regard to letter case. -/
  | words (ws : List String)
  /-- The border between a character of a word and one of none. -/
  | boundary
  | seq (p q : Pattern)
  | either (p q : Pattern)

namespace Pattern

/-- The places up to which characters of a class go on, the farthest first. -/
def runs (accepts : Char → Bool) (done : List Char) : List Char → List (List Char × List Char)
  | [] => [(done, [])]
  | c :: cs =>
    if accepts c then runs accepts (done ++ [c]) cs ++ [(done, c :: cs)] else [(done, c :: cs)]

/-- The places at which a match can end, in the order in which they are tried. A place is the text
before it and the text behind it. -/
def ends : Pattern → List Char → List Char → List (List Char × List Char)
  | one accepts, done, cs => match cs with
    | c :: rest => if accepts c then [(done ++ [c], rest)] else []
    | [] => []
  | many accepts, done, cs => runs accepts done cs
  | words ws, done, cs =>
    (ws.filter fun s => (cs.take s.length).map foldLetter = s.toList).map fun s =>
      (done ++ cs.take s.length, cs.drop s.length)
  | boundary, done, cs =>
    if done.getLast?.any Text.isWordChar != cs.head?.any Text.isWordChar then [(done, cs)] else []
  | seq p q, done, cs => (p.ends done cs).flatMap fun place => q.ends place.1 place.2
  | either p q, done, cs => p.ends done cs ++ q.ends done cs

/-- The length of the first match at the front of a text. -/
def length? (p : Pattern) (cs : List Char) : Option Nat :=
  (p.ends [] cs).head?.map fun place => place.1.length

/-- The text `w` between `done` and `rest` is a match. -/
def Matches (p : Pattern) (done w rest : List Char) : Prop :=
  (done ++ w, rest) ∈ p.ends done (w ++ rest)

/-- Characters of a class, at least one. -/
def several (accepts : Char → Bool) : Pattern := seq (one accepts) (many accepts)

variable {p q : Pattern} {accepts : Char → Bool} {ws : List String} {done w rest cs : List Char}

theorem runs_nil : runs accepts done [] = [(done, [])] := rfl

theorem runs_cons (c : Char) : runs accepts done (c :: cs) =
    if accepts c then runs accepts (done ++ [c]) cs ++ [(done, c :: cs)] else [(done, c :: cs)] := rfl

theorem ends_one (c : Char) : (one accepts).ends done (c :: cs) =
    if accepts c then [(done ++ [c], cs)] else [] := rfl

theorem ends_many : (many accepts).ends done cs = runs accepts done cs := rfl

theorem ends_boundary : boundary.ends done cs =
    if done.getLast?.any Text.isWordChar != cs.head?.any Text.isWordChar then [(done, cs)] else [] := rfl

theorem ends_seq : (seq p q).ends done cs =
    (p.ends done cs).flatMap fun place => q.ends place.1 place.2 := rfl

private theorem exists_of_mem_runs {place : List Char × List Char} (h : place ∈ runs accepts done cs) :
    ∃ w, cs = w ++ place.2 ∧ place.1 = done ++ w ∧ ∀ c ∈ w, accepts c := by
  have hhere {done cs : List Char} (h : place = (done, cs)) :
      ∃ w, cs = w ++ place.2 ∧ place.1 = done ++ w ∧ ∀ c ∈ w, accepts c :=
    ⟨[], by rw [h]; rfl, by rw [h, List.append_nil], by simp⟩
  induction cs generalizing done with
  | nil => exact hhere (List.mem_singleton.mp h)
  | cons c cs ih =>
    rw [runs_cons] at h
    split at h
    · next hc =>
      rcases List.mem_append.mp h with h | h
      · obtain ⟨w, hcs, hbefore, hw⟩ := ih h
        exact ⟨c :: w, by rw [hcs]; rfl, by rw [hbefore]; simp, List.forall_mem_cons.mpr ⟨hc, hw⟩⟩
      · exact hhere (List.mem_singleton.mp h)
    · exact hhere (List.mem_singleton.mp h)

private theorem mem_runs (hw : ∀ c ∈ w, accepts c) :
    (done ++ w, rest) ∈ runs accepts done (w ++ rest) := by
  induction w generalizing done with
  | nil =>
    cases rest with
    | nil => simp [runs_nil]
    | cons c cs =>
      rw [List.nil_append, runs_cons]
      split <;> simp
  | cons c w ih =>
    obtain ⟨hc, hw⟩ := List.forall_mem_cons.mp hw
    rw [List.cons_append, runs_cons, if_pos hc]
    have hmem := @ih (done ++ [c]) hw
    rw [List.append_assoc] at hmem
    exact List.mem_append_left _ hmem

/-- A match ends in the text that it started in. -/
theorem exists_of_mem_ends {place : List Char × List Char} (h : place ∈ p.ends done cs) :
    ∃ w, cs = w ++ place.2 ∧ place.1 = done ++ w := by
  induction p generalizing done cs place with
  | one accepts =>
    cases cs with
    | nil => exact absurd h List.not_mem_nil
    | cons c rest =>
      rw [ends_one] at h
      split at h
      · rw [List.mem_singleton.mp h]
        exact ⟨[c], rfl, rfl⟩
      · simp at h
  | many accepts =>
    obtain ⟨w, hcs, hbefore, -⟩ := exists_of_mem_runs h
    exact ⟨w, hcs, hbefore⟩
  | words ws =>
    obtain ⟨s, -, rfl⟩ := List.mem_map.mp h
    exact ⟨_, (List.take_append_drop _ _).symm, rfl⟩
  | boundary =>
    rw [ends_boundary] at h
    split at h
    · rw [List.mem_singleton.mp h]
      exact ⟨[], rfl, (List.append_nil _).symm⟩
    · simp at h
  | seq p q hp hq =>
    obtain ⟨middle, hmiddle, hplace⟩ := List.mem_flatMap.mp h
    obtain ⟨u, rfl, hu⟩ := hp hmiddle
    obtain ⟨v, hv, hbefore⟩ := hq hplace
    exact ⟨u ++ v, by rw [hv, List.append_assoc], by rw [hbefore, hu, List.append_assoc]⟩
  | either p q hp hq =>
    rcases List.mem_append.mp h with h | h
    · exact hp h
    · exact hq h

theorem matches_one : (one accepts).Matches done w rest ↔ ∃ c, w = [c] ∧ accepts c := by
  constructor
  · intro h
    rw [Matches] at h
    cases hcs : w ++ rest with
    | nil =>
      rw [hcs] at h
      exact absurd h List.not_mem_nil
    | cons c cs =>
      rw [hcs, ends_one] at h
      split at h
      · next hc =>
        have hplace := List.mem_singleton.mp h
        exact ⟨c, List.append_cancel_left (congrArg Prod.fst hplace), hc⟩
      · simp at h
  · rintro ⟨c, rfl, hc⟩
    rw [Matches, List.singleton_append, ends_one, if_pos hc]
    exact List.mem_singleton_self _

theorem matches_many : (many accepts).Matches done w rest ↔ ∀ c ∈ w, accepts c := by
  refine ⟨fun h => ?_, mem_runs⟩
  obtain ⟨u, hcs, -, hu⟩ := exists_of_mem_runs h
  rwa [List.append_cancel_right hcs]

theorem matches_words : (words ws).Matches done w rest ↔ isOneOf ws w := by
  have hends : (words ws).Matches done w rest ↔ ∃ s ∈ ws.filter fun s =>
      ((w ++ rest).take s.length).map foldLetter = s.toList,
      (done ++ (w ++ rest).take s.length, (w ++ rest).drop s.length) = (done ++ w, rest) := List.mem_map
  rw [hends, isOneOf, List.contains_eq_mem, decide_eq_true_eq]
  constructor
  · rintro ⟨s, hs, hplace⟩
    obtain ⟨hmem, htake⟩ := List.mem_filter.mp hs
    have hw : (w ++ rest).take s.length = w := List.append_cancel_left (congrArg Prod.fst hplace)
    rw [hw, decide_eq_true_eq] at htake
    rwa [htake, String.ofList_toList]
  · intro hmem
    have hlength : (String.ofList (w.map foldLetter)).length = w.length := by simp
    refine ⟨_, List.mem_filter.mpr ⟨hmem, ?_⟩, ?_⟩
    · simp
    · simp

theorem matches_boundary : boundary.Matches done w rest ↔
    w = [] ∧ done.getLast?.any Text.isWordChar ≠ rest.head?.any Text.isWordChar := by
  rw [Matches, ends_boundary]
  split
  · next hborder =>
    rw [bne_iff_ne] at hborder
    constructor
    · intro h
      have hw : w = [] := by simpa using congrArg Prod.fst (List.mem_singleton.mp h)
      subst hw
      exact ⟨rfl, hborder⟩
    · rintro ⟨rfl, -⟩
      simp
  · next hborder =>
    refine ⟨fun h => (nomatch h), ?_⟩
    rintro ⟨rfl, hne⟩
    exact absurd (bne_iff_ne.mpr hne) hborder

theorem matches_seq : (seq p q).Matches done w rest ↔
    ∃ u v, w = u ++ v ∧ p.Matches done u (v ++ rest) ∧ q.Matches (done ++ u) v rest := by
  rw [Matches, ends_seq, List.mem_flatMap]
  constructor
  · rintro ⟨⟨before, behind⟩, hp, hq⟩
    obtain ⟨u, hcs, rfl⟩ := exists_of_mem_ends hp
    obtain ⟨v, rfl, hdone⟩ := exists_of_mem_ends hq
    obtain rfl : w = u ++ v := by
      rw [List.append_assoc] at hdone
      exact List.append_cancel_left hdone
    refine ⟨u, v, rfl, ?_, ?_⟩
    · rwa [List.append_assoc] at hp
    · rwa [← List.append_assoc] at hq
  · rintro ⟨u, v, rfl, hp, hq⟩
    refine ⟨(done ++ u, v ++ rest), ?_, ?_⟩
    · rwa [List.append_assoc]
    · rwa [← List.append_assoc]

theorem matches_either :
    (either p q).Matches done w rest ↔ p.Matches done w rest ∨ q.Matches done w rest :=
  List.mem_append

theorem matches_several : (several accepts).Matches done w rest ↔ w ≠ [] ∧ ∀ c ∈ w, accepts c := by
  rw [several, matches_seq]
  constructor
  · rintro ⟨u, v, rfl, hu, hv⟩
    obtain ⟨c, rfl, hc⟩ := matches_one.mp hu
    exact ⟨by simp, List.forall_mem_cons.mpr ⟨hc, matches_many.mp hv⟩⟩
  · rintro ⟨hne, hw⟩
    obtain ⟨c, v, rfl⟩ := List.exists_cons_of_ne_nil hne
    obtain ⟨hc, hv⟩ := List.forall_mem_cons.mp hw
    exact ⟨[c], v, rfl, matches_one.mpr ⟨c, rfl, hc⟩, matches_many.mpr hv⟩

/-- The longest run is tried first. -/
theorem head?_runs : (runs accepts done cs).head? =
    some (done ++ cs.takeWhile accepts, cs.dropWhile accepts) := by
  induction cs generalizing done with
  | nil => simp [runs_nil]
  | cons c cs ih =>
    rw [runs_cons]
    split
    · next hc => simp [ih, hc]
    · next hc => simp [hc]

/-- What is found is a match. -/
theorem exists_match {n : Nat} (h : p.length? cs = some n) :
    ∃ w rest, cs = w ++ rest ∧ w.length = n ∧ p.Matches [] w rest := by
  obtain ⟨place, hplace, rfl⟩ := Option.map_eq_some_iff.mp h
  have hmem : place ∈ p.ends [] cs := List.mem_of_mem_head? hplace
  obtain ⟨w, hcs, hw⟩ := exists_of_mem_ends hmem
  rw [List.nil_append] at hw
  refine ⟨w, place.2, hcs, by rw [hw], ?_⟩
  rw [Matches, List.nil_append, ← hcs, ← hw]
  exact hmem

/-- Where all matches have one length, it is the length that is found. -/
theorem length?_eq {o : Option Nat} (hle : ∀ n, o = some n → n ≤ cs.length)
    (h : ∀ w rest, w ++ rest = cs → (p.Matches [] w rest ↔ o = some w.length)) : p.length? cs = o := by
  cases hfound : p.length? cs with
  | some n =>
    obtain ⟨w, rest, hcs, rfl, hmatch⟩ := exists_match hfound
    exact ((h w rest hcs.symm).mp hmatch).symm
  | none =>
    cases o with
    | none => rfl
    | some n =>
      have hsplit := List.take_append_drop n cs
      have hmatch := (h _ _ hsplit).mpr (by rw [List.length_take, min_eq_left (hle n rfl)])
      have hempty : p.ends [] cs = [] := by simpa [length?] using hfound
      rw [Matches, hsplit, hempty] at hmatch
      cases hmatch

end Pattern
end AsmListing
