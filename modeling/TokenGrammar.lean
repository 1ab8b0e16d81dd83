import TokenGrammar.Calculator.Basic
import TokenGrammar.Console.Program
import TokenGrammar.Grammar.Workshop
import TokenGrammar.Main
import TokenGrammar.Parser.Cursor
import TokenGrammar.Parser.Either
import TokenGrammar.Payload.Plan
import TokenGrammar.Proofs.Parser.Allowance
import TokenGrammar.Proofs.Parser.PassingOver
import TokenGrammar.Proofs.Parser.Filtering
import TokenGrammar.Proofs.Parser.Window
import TokenGrammar.Proofs.Parser.Derivation
import TokenGrammar.Proofs.Parser.Alike
import TokenGrammar.Proofs.Grammar.History
import TokenGrammar.Proofs.Pattern.Greedy
import TokenGrammar.Proofs.Lexicon.Tiling
import TokenGrammar.Proofs.Calculator.Language
import TokenGrammar.Proofs.Calculator.Standard
import TokenGrammar.Proofs.Calculator.Parsing
import TokenGrammar.Proofs.Calculator.Correct
import TokenGrammar.Proofs.Calculator.Tokens
import TokenGrammar.Proofs.Calculator.Factoring
import TokenGrammar.Proofs.Calculator.Scanner
import TokenGrammar.Proofs.Calculator.Printing
import TokenGrammar.Proofs.Termination
import TokenGrammar.Proofs.Parser.Unfolding
import TokenGrammar.Proofs.Parser.Entries
import TokenGrammar.Proofs.WholeMatch
import TokenGrammar.Proofs.Calculator.Entries
import TokenGrammar.Proofs.Calculator.Direct
import TokenGrammar.Proofs.Lexicon.Registering
import TokenGrammar.Proofs.Calculator.Exactness
import TokenGrammar.Proofs.ErrorPosition
import TokenGrammar.Proofs.Calculator.Offsets
import TokenGrammar.Proofs.Lexicon.Origins
import TokenGrammar.Proofs.Nesting
import TokenGrammar.Proofs.Pattern.Embedding
import TokenGrammar.Proofs.Lexicon.Anchoring
import TokenGrammar.Proofs.Parser.Skipping
import TokenGrammar.Proofs.Console.Lines
import TokenGrammar.Proofs.Console.Transcript
import TokenGrammar.Proofs.Parser.Repetition
import TokenGrammar.Proofs.Console.Caret
