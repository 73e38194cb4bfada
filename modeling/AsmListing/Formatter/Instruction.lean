import AsmListing.Formatter.Memory

/-! Operands and whole instructions as they are written. -/
namespace AsmListing.Formatter

def immediateText (f : Formatter) (op : Operand) : Except Error String := do
  let o ← f.numberOptions .immediate
  if op.signed then o.signed (8 * op.size) (← op.signedImmediate)
  else o.unsigned (8 * op.size) op.immediate

def immediate (f : Formatter) (op : Operand) : Emission :=
  .ofExcept (f.immediateText op) fun text =>
    .when (f.dialect.immediatePrefix ≠ "") (.write .punctuation f.dialect.immediatePrefix) ++
      .write .number text

def nearBranch (f : Formatter) (op : Operand) : Emission :=
  .when (op.short && f.options.showBranchSize && f.dialect.shortKeyword) (f.keyword "short") ++
  .writeOf .address do
    let o ← f.numberOptions .branch
    o.unsigned (8 * op.size) op.target

def realOperand (f : Formatter) (op : Operand) : Emission :=
  match op.kind with
  | .register => f.register op.register
  | .immediate => f.immediate op
  | .nearBranch => f.nearBranch op
  | .memory => f.memory op
  | .unknown name => .fail (.unsupported (.operandKind name))

def slot (f : Formatter) (i : Instruction) : Slot → Emission
  | .synthetic op => .write .decorator (f.cased f.options.uppercaseDecorators op.text)
  | .operand k => .ofExcept ((i.operand k).mapError .argument) f.realOperand

/-- The operand at a position of the layout. -/
def operand (f : Formatter) (i : Instruction) (position : Int) : Emission :=
  f.checkRounding i ++
  .ofExcept (((f.layout i).slot position).mapError .argument) (f.slot i)

/-- The operands in order, each checked by itself. -/
def operandList (f : Formatter) (i : Instruction) : Emission :=
  .join f.separator ((List.range (f.operandCount i)).map fun (k : Nat) => f.operand i k)

def allOperands (f : Formatter) (i : Instruction) : Emission :=
  f.checkRounding i ++ f.operandList i

/-- The mnemonic is written before the operands are looked at. -/
def mnemonicThenOperands (f : Formatter) (i : Instruction) : Emission :=
  f.mnemonic i ++ f.allOperands i

/-- Nothing is written if the rounding control cannot be. -/
def instruction (f : Formatter) (i : Instruction) : Emission :=
  f.checkRounding i ++ f.mnemonicThenOperands i

end AsmListing.Formatter
