import AsmListing.Formatter.Instruction
import AsmListing.FormatOptions.Environment
import AsmListing.Reader.Program
import AsmListing.Proofs.Address.Agreement
import AsmListing.Proofs.Formatter.Failure
import AsmListing.Proofs.Grammar.Pattern
import AsmListing.Proofs.Layout.Positions
import AsmListing.Proofs.RoundTrip.FixedPoint
import AsmListing.Proofs.Grammar.Terminals
import AsmListing.Proofs.Grammar.Derivation
import AsmListing.Proofs.Grammar.Places
import AsmListing.Proofs.Grammar.Choice
import AsmListing.Proofs.Grammar.Acceptance
import AsmListing.Proofs.Meaning.Lexical
import AsmListing.Proofs.Meaning.Summands
import AsmListing.Proofs.Meaning.Readings
import AsmListing.Proofs.Meaning.Meaningful
import AsmListing.Proofs.Meaning.Refusal
import AsmListing.Proofs.Layout.Arrangement
import AsmListing.Proofs.Formatter.Pieces
import AsmListing.Proofs.Formatter.Appearance
import AsmListing.Proofs.Address.Identity
import AsmListing.Proofs.Options.Changes
import AsmListing.Proofs.Options.Environment
import AsmListing.Proofs.Options.Validation
import AsmListing.Proofs.Meaning.Conversion
import AsmListing.Proofs.Numeral.Presets
import AsmListing.Proofs.Formatter.Immediates
import AsmListing.Proofs.Meaning.Sums
import AsmListing.Proofs.Meaning.Correspondence
import AsmListing.Proofs.Meaning.Rearrangement
import AsmListing.Proofs.Numeral.Padding
import AsmListing.Proofs.Reader.Programs
import AsmListing.Proofs.Grammar.Spacing
import AsmListing.Proofs.Grammar.LetterCase
import AsmListing.Proofs.Meaning.LetterCase
import AsmListing.Proofs.Numeral.Grouping
import AsmListing.Proofs.Numeral.Forms
import AsmListing.Proofs.Formatter.MnemonicPhase
