import BlockLang.Main
import BlockLang.RoundTrip
import BlockLang.Token.Walk
import BlockLang.Proofs.Alternatives
import BlockLang.Proofs.ErrorPosition
import BlockLang.Proofs.Limits
import BlockLang.Proofs.Minimality
import BlockLang.Proofs.Reprinting
import BlockLang.Proofs.TokenLevels
import BlockLang.Proofs.Truncation
import BlockLang.Proofs.WellFormed
import BlockLang.Proofs.Agreement
import BlockLang.Proofs.Refusal
import BlockLang.Proofs.Description
import BlockLang.Proofs.Expected
import BlockLang.Proofs.Following
import BlockLang.Proofs.Standalone
import BlockLang.Proofs.PrinterUse
import BlockLang.Proofs.Excerpt
import BlockLang.Proofs.Termination
import BlockLang.Proofs.Backtracking
import BlockLang.Proofs.Opacity
import BlockLang.Proofs.Categories
import BlockLang.Proofs.Conversation
import BlockLang.Proofs.Readers
