import Mathlib
import AsmListing.Proofs.Outcome
import AsmListing.Proofs.Text.Trim
import AsmListing.Reader.Program

/-! Programs line by line. Blank lines hold no instruction, so it does not matter that a line feed
behind a carriage return starts no line, and a program is read like its parts before and behind any
line break. -/
namespace AsmListing

namespace Text
variable {line : List Char} {c : Char}

/-- What comes behind a line break. A line feed right behind a carriage return belongs to it. -/
def behindBreak : Char → List Char → List Char
  | '\r', '\n' :: cs => cs
  | _, cs => cs

theorem lines_cons (hc : isLineBreak c = false) (cs : List Char) :
    lines (c :: cs) = (c :: (lines cs).headD []) :: (lines cs).tail := by
  have hreturn : c ≠ '\r' := by
    rintro rfl
    cases hc
  rw [lines, if_neg (by simp [hc])]
  · cases lines cs <;> rfl
  · exact fun _ h _ => hreturn h

theorem lines_break (hc : isLineBreak c) (rest : List Char) :
    lines (c :: rest) = [] :: lines (behindBreak c rest) := by
  unfold behindBreak
  split
  · rw [lines]
  · next hpair =>
    rw [lines, if_pos hc]
    exact hpair

/-- A line ends at the first line break. -/
theorem lines_append_break (hline : ∀ x ∈ line, isLineBreak x = false) (hc : isLineBreak c)
    (rest : List Char) : lines (line ++ c :: rest) = line :: lines (behindBreak c rest) := by
  induction line with
  | nil => exact lines_break hc rest
  | cons x line ih =>
    obtain ⟨hx, hline⟩ := List.forall_mem_cons.mp hline
    rw [List.cons_append, lines_cons hx, ih hline]
    rfl

/-- Without a line break there is one line, or none if the text is empty. -/
theorem lines_of_unbroken (hline : ∀ x ∈ line, isLineBreak x = false) :
    lines line = if line = [] then [] else [line] := by
  induction line with
  | nil => rfl
  | cons x line ih =>
    obtain ⟨hx, hline⟩ := List.forall_mem_cons.mp hline
    rw [lines_cons hx, ih hline]
    cases line <;> rfl

/-- What holds of texts without a line break, and of a text whenever it holds of what follows its first
line break, holds of all texts. -/
theorem induction_on_breaks {P : List Char → Prop}
    (hlast : ∀ line, (∀ x ∈ line, isLineBreak x = false) → P line)
    (hmore : ∀ line c rest, (∀ x ∈ line, isLineBreak x = false) → isLineBreak c → P rest →
      P (line ++ c :: rest)) (cs : List Char) : P cs := by
  induction hlength : cs.length using Nat.strong_induction_on generalizing cs with
  | _ n ih =>
    let unbroken := cs.takeWhile fun x => !isLineBreak x
    have hunbroken : ∀ x ∈ unbroken, isLineBreak x = false := by
      intro x hx
      simpa using List.mem_takeWhile_imp hx
    have hsplit : unbroken ++ cs.dropWhile (fun x => !isLineBreak x) = cs :=
      List.takeWhile_append_dropWhile
    cases hdrop : cs.dropWhile fun x => !isLineBreak x with
    | nil =>
      rw [hdrop, List.append_nil] at hsplit
      rw [← hsplit]
      exact hlast unbroken hunbroken
    | cons c rest =>
      have hc : isLineBreak c := by
        have hhead := List.head?_dropWhile_not (fun x => !isLineBreak x) cs
        simpa [hdrop] using hhead
      rw [hdrop] at hsplit
      have hshorter : rest.length < n := by
        rw [← hlength, ← hsplit, List.length_append, List.length_cons]
        omega
      rw [← hsplit]
      exact hmore unbroken c rest hunbroken hc (ih _ hshorter rest rfl)

end Text

namespace Program
open Text (lines behindBreak isLineBreak isBlank)
variable {line comment : List Char} {c : Char}

/-- What the lines with an instruction say. -/
def codes (cs : List Char) : List (List Char) := ((lines cs).map code).filter (· != [])

private theorem codes_of_lines {cs rest : List Char} (h : lines cs = line :: lines rest) :
    codes cs = [code line].filter (· != []) ++ codes rest := by
  rw [codes, codes, h, ← List.filter_append]
  rfl

private theorem codes_of_unbroken (hline : ∀ x ∈ line, isLineBreak x = false) :
    codes line = [code line].filter (· != []) := by
  rw [codes, Text.lines_of_unbroken hline]
  cases line <;> rfl

/-- A line feed starts no instruction, so it may as well start a line. -/
private theorem codes_behindBreak (c : Char) (rest : List Char) :
    codes (behindBreak c rest) = codes rest := by
  unfold behindBreak
  split
  · next cs => exact (codes_of_lines (Text.lines_break (c := '\n') rfl cs)).symm
  · rfl

private theorem codes_line (hline : ∀ x ∈ line, isLineBreak x = false) (hc : isLineBreak c)
    (rest : List Char) : codes (line ++ c :: rest) = codes line ++ codes rest := by
  rw [codes_of_lines (Text.lines_append_break hline hc rest), codes_behindBreak,
    codes_of_unbroken hline]

/-- A program has the instructions of its parts before and behind a line break. -/
theorem codes_append_break (hc : isLineBreak c) (a b : List Char) :
    codes (a ++ c :: b) = codes a ++ codes b := by
  induction a using Text.induction_on_breaks with
  | hlast line hline => exact codes_line hline hc b
  | hmore line d rest hline hd ih =>
    rw [List.append_assoc, List.cons_append, codes_line hline hd, codes_line hline hd, ih,
      List.append_assoc]

private theorem code_comment (line comment : List Char) : code (line ++ ';' :: comment) = code line := by
  have htake : (line ++ ';' :: comment).takeWhile (· != ';') = line.takeWhile (· != ';') := by
    induction line with
    | nil => rfl
    | cons x line ih =>
      rw [List.cons_append, List.takeWhile_cons, List.takeWhile_cons, ih]
  rw [code, htake, code]

/-- A comment behind the last line changes nothing. -/
private theorem codes_comment (hcomment : ∀ x ∈ comment, isLineBreak x = false) (front : List Char) :
    codes (front ++ ';' :: comment) = codes front := by
  induction front using Text.induction_on_breaks with
  | hlast line hline =>
    have hwhole : ∀ x ∈ line ++ ';' :: comment, isLineBreak x = false := by
      intro x hx
      rcases List.mem_append.mp hx with hx | hx
      · exact hline x hx
      · rcases List.mem_cons.mp hx with rfl | hx
        · rfl
        · exact hcomment x hx
    rw [codes_of_unbroken hwhole, codes_of_unbroken hline, code_comment]
  | hmore line c rest hline hc ih =>
    rw [List.append_assoc, List.cons_append, codes_line hline hc, codes_line hline hc, ih]

/-- A comment behind any line changes nothing. -/
private theorem codes_comment_append (hcomment : ∀ x ∈ comment, isLineBreak x = false)
    (front : List Char) {back : List Char} (hback : back.head?.all isLineBreak) :
    codes (front ++ ';' :: comment ++ back) = codes (front ++ back) := by
  cases back with
  | nil => rw [List.append_nil, List.append_nil, codes_comment hcomment]
  | cons c back =>
    have hc : isLineBreak c := hback
    rw [codes_append_break hc, codes_append_break hc, codes_comment hcomment]

theorem codeLines_eq (text : String) : codeLines text = (codes text.toList).map String.ofList := rfl

private theorem read_append_break (hc : isLineBreak c) (a b : String) :
    read (a ++ String.singleton c ++ b) = (do return (← read a) ++ (← read b)) := by
  have hlines : codeLines (a ++ String.singleton c ++ b) = codeLines a ++ codeLines b := by
    have hchars : (a ++ String.singleton c ++ b).toList = a.toList ++ c :: b.toList := by simp
    rw [codeLines_eq, hchars, codes_append_break hc, List.map_append]
    rfl
  rw [read, hlines, List.mapM_append]
  rfl

private theorem code_bne_nil (line : List Char) :
    (code line != []) = !(line.takeWhile (· != ';')).all isBlank := by
  rw [Bool.eq_iff_iff, bne_iff_ne, ne_eq, code, Text.trim_eq_nil]
  simp

theorem length_codeLines (text : String) : (codeLines text).length =
    (lines text.toList).countP fun line => !(line.takeWhile (· != ';')).all isBlank := by
  have hcount : (fun line => !(line.takeWhile (· != ';')).all isBlank) = (· != []) ∘ code := by
    funext line
    exact (code_bne_nil line).symm
  rw [codeLines_eq, List.length_map, codes, ← List.countP_eq_length_filter, List.countP_map, hcount]

/-- A program is read like its parts before and behind a line break, and the first error counts.
A comment behind any line changes nothing. There are as many instructions as lines that are not blank
before their comments. -/
theorem read_line_by_line :
    (∀ (a b : String) (c : Char), isLineBreak c →
      (∀ e, read a = .error e → read (a ++ String.singleton c ++ b) = .error e) ∧
      ∀ p, read a = .ok p → read (a ++ String.singleton c ++ b) = (read b).map (p ++ ·)) ∧
    (∀ front comment back : String, (∀ x ∈ comment.toList, isLineBreak x = false) →
      back.toList.head?.all isLineBreak → read (front ++ ";" ++ comment ++ back) = read (front ++ back)) ∧
    ∀ text p, read text = .ok p → p.length =
      (lines text.toList).countP fun line => !(line.takeWhile (· != ';')).all isBlank := by
  refine ⟨fun a b c hc => ?_, fun front comment back hcomment hback => ?_, fun text p hp => ?_⟩
  · rw [read_append_break hc]
    constructor
    · intro e he
      rw [he]
      rfl
    · intro p hp
      rw [hp]
      cases read b <;> rfl
  · have hchars : (front ++ ";" ++ comment ++ back).toList =
        front.toList ++ ';' :: comment.toList ++ back.toList := by
      simp
    rw [read, read, codeLines_eq, hchars, codes_comment_append hcomment _ hback, codeLines_eq,
      String.toList_append]
  · rw [← length_codeLines]
    exact (Outcome.mapM_eq_ok.mp hp).length_eq.symm

/-- A carriage return before the join and the line feed behind it are one line break, and the broken line
behind a comment is the one that counts. -/
theorem read_line_by_line_straddling :
    let a := "nop ; one\r"
    let b := "\x0cret\u2028 ;"
    let nop : Instruction := { mnemonic := "nop" }
    let ret : Instruction := { mnemonic := "ret" }
    let broken := .error (.malformed "nop,")
    read a = .ok [nop] ∧ read b = .ok [ret] ∧ read (a ++ "\n" ++ b) = .ok [nop, ret] ∧
      read "\x0bnop, ; x" = broken ∧ read ("\x0bnop, ; x" ++ "\n" ++ "ret]") = broken ∧
      read ("nop" ++ ";" ++ ", \x1f;" ++ "\x1e") = .ok [nop] ∧
      [nop].length = (lines a.toList).countP fun line => !(line.takeWhile (· != ';')).all isBlank := by
  intro a b nop ret broken
  have ha : read a = .ok [nop] := by cbv
  have hb : read b = .ok [ret] := by cbv
  have hbroken : read "\x0bnop, ; x" = broken := by cbv
  have hnop : read ("nop" ++ "\x1e") = .ok [nop] := by cbv
  obtain ⟨hjoin, hcomment, hcount⟩ := read_line_by_line
  refine ⟨ha, hb, ?_, hbroken, (hjoin _ "ret]" '\n' rfl).1 _ hbroken, ?_, hcount a _ ha⟩
  · exact ((hjoin a b '\n' rfl).2 _ ha).trans (congrArg _ hb)
  · exact (hcomment "nop" ", \x1f;" "\x1e" (by simp [isLineBreak]) rfl).trans hnop

end Program
end AsmListing
