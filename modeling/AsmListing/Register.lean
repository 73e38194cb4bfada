import AsmListing.Text.LetterCase

/-! The registers of the instruction set, with their numbers, names and widths. -/
namespace AsmListing

/-- The first, `none`, stands for an absent register and has number zero; the others are numbered in
order. -/
inductive Register where
  | none
  | al | cl | dl | bl | ah | ch | dh | bh | spl | bpl | sil | dil | r8b | r9b | r10b | r11b
  | r12b | r13b | r14b | r15b
  | ax | cx | dx | bx | sp | bp | si | di | r8w | r9w | r10w | r11w | r12w | r13w | r14w | r15w
  | eax | ecx | edx | ebx | esp | ebp | esi | edi | r8d | r9d | r10d | r11d | r12d | r13d | r14d
  | r15d
  | rax | rcx | rdx | rbx | rsp | rbp | rsi | rdi | r8 | r9 | r10 | r11 | r12 | r13 | r14 | r15
  | rip
  | es | cs | ss | ds | fs | gs
  | xmm0 | xmm1 | xmm2 | xmm3 | xmm4 | xmm5 | xmm6 | xmm7 | xmm8 | xmm9 | xmm10 | xmm11 | xmm12
  | xmm13 | xmm14 | xmm15
  deriving DecidableEq, Repr, Inhabited

namespace Register

/-- All registers, in the order of their numbers. -/
def all : List Register :=
  [.none,
   .al, .cl, .dl, .bl, .ah, .ch, .dh, .bh, .spl, .bpl, .sil, .dil, .r8b, .r9b, .r10b, .r11b,
   .r12b, .r13b, .r14b, .r15b,
   .ax, .cx, .dx, .bx, .sp, .bp, .si, .di, .r8w, .r9w, .r10w, .r11w, .r12w, .r13w, .r14w, .r15w,
   .eax, .ecx, .edx, .ebx, .esp, .ebp, .esi, .edi, .r8d, .r9d, .r10d, .r11d, .r12d, .r13d, .r14d,
   .r15d,
   .rax, .rcx, .rdx, .rbx, .rsp, .rbp, .rsi, .rdi, .r8, .r9, .r10, .r11, .r12, .r13, .r14, .r15,
   .rip,
   .es, .cs, .ss, .ds, .fs, .gs,
   .xmm0, .xmm1, .xmm2, .xmm3, .xmm4, .xmm5, .xmm6, .xmm7, .xmm8, .xmm9, .xmm10, .xmm11, .xmm12,
   .xmm13, .xmm14, .xmm15]

def name : Register → String
  | .none => "none"
  | .al => "al" | .cl => "cl" | .dl => "dl" | .bl => "bl" | .ah => "ah" | .ch => "ch"
  | .dh => "dh" | .bh => "bh" | .spl => "spl" | .bpl => "bpl" | .sil => "sil" | .dil => "dil"
  | .r8b => "r8b" | .r9b => "r9b" | .r10b => "r10b" | .r11b => "r11b" | .r12b => "r12b"
  | .r13b => "r13b" | .r14b => "r14b" | .r15b => "r15b"
  | .ax => "ax" | .cx => "cx" | .dx => "dx" | .bx => "bx" | .sp => "sp" | .bp => "bp"
  | .si => "si" | .di => "di" | .r8w => "r8w" | .r9w => "r9w" | .r10w => "r10w" | .r11w => "r11w"
  | .r12w => "r12w" | .r13w => "r13w" | .r14w => "r14w" | .r15w => "r15w"
  | .eax => "eax" | .ecx => "ecx" | .edx => "edx" | .ebx => "ebx" | .esp => "esp" | .ebp => "ebp"
  | .esi => "esi" | .edi => "edi" | .r8d => "r8d" | .r9d => "r9d" | .r10d => "r10d"
  | .r11d => "r11d" | .r12d => "r12d" | .r13d => "r13d" | .r14d => "r14d" | .r15d => "r15d"
  | .rax => "rax" | .rcx => "rcx" | .rdx => "rdx" | .rbx => "rbx" | .rsp => "rsp" | .rbp => "rbp"
  | .rsi => "rsi" | .rdi => "rdi" | .r8 => "r8" | .r9 => "r9" | .r10 => "r10" | .r11 => "r11"
  | .r12 => "r12" | .r13 => "r13" | .r14 => "r14" | .r15 => "r15" | .rip => "rip"
  | .es => "es" | .cs => "cs" | .ss => "ss" | .ds => "ds" | .fs => "fs" | .gs => "gs"
  | .xmm0 => "xmm0" | .xmm1 => "xmm1" | .xmm2 => "xmm2" | .xmm3 => "xmm3" | .xmm4 => "xmm4"
  | .xmm5 => "xmm5" | .xmm6 => "xmm6" | .xmm7 => "xmm7" | .xmm8 => "xmm8" | .xmm9 => "xmm9"
  | .xmm10 => "xmm10" | .xmm11 => "xmm11" | .xmm12 => "xmm12" | .xmm13 => "xmm13"
  | .xmm14 => "xmm14" | .xmm15 => "xmm15"

def number (r : Register) : Nat := r.ctorIdx

def ofNumber? (n : Int) : Option Register := if n < 0 then Option.none else all[n.toNat]?

/-- The name in capitals, by which a register is looked up. -/
def symbol (r : Register) : String := Text.upper r.name

def ofSymbol? (s : String) : Option Register := all.find? fun r => r.symbol == s

def between (first r last : Register) : Bool :=
  first.number ≤ r.number && r.number ≤ last.number

def isSegment (r : Register) : Bool := between .es r .gs

/-- The width in bytes; the absent register has none. -/
def width? (r : Register) : Option Nat :=
  if between .al r .r15b then some 1
  else if between .ax r .r15w || r.isSegment then some 2
  else if between .eax r .r15d then some 4
  else if between .rax r .rip then some 8
  else if between .xmm0 r .xmm15 then some 16
  else Option.none

def display (r : Register) : String := "<Register." ++ r.symbol ++ ": " ++ toString r.number ++ ">"

end Register

end AsmListing
