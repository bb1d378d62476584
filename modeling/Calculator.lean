import Calculator.Main
import Calculator.Proofs.Words
import Calculator.Proofs.Machine
import Calculator.Proofs.Expression
import Calculator.Proofs.Grammar
import Calculator.Proofs.Scanning
import Calculator.Proofs.Run
import Calculator.Proofs.Conversion
import Calculator.Proofs.Faults
import Calculator.Proofs.Acceptance
import Calculator.Proofs.Leftover
import Calculator.Proofs.CharacterScan
import Calculator.Proofs.LongestMatch
import Calculator.Proofs.Tokenization
import Calculator.Proofs.Batch
import Calculator.Proofs.Output
import Calculator.Proofs.Numerals
import Calculator.Proofs.RoundTrip
import Calculator.Proofs.Rounding
import Calculator.Proofs.Reading
import Calculator.Proofs.Arithmetic
import Calculator.Proofs.Division
import Calculator.Proofs.Application
import Calculator.Proofs.Composition
import Calculator.Proofs.Conservation
import Calculator.Proofs.Parentheses
import Calculator.Proofs.BareOperators
import Calculator.Proofs.FailedFeeds
import Calculator.Proofs.Decoding
import Calculator.Proofs.Counting
import Calculator.Proofs.Places
import Calculator.Proofs.Levels
import Calculator.Proofs.Separator
