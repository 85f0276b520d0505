import ShaderPair.Host.Variables
import ShaderPair.Main
import ShaderPair.Proofs.CompilerCalls
import ShaderPair.Proofs.GeneratedNames
import ShaderPair.Proofs.OnePass
import ShaderPair.Proofs.ReadBack
import ShaderPair.Proofs.ReturnedTokens
import ShaderPair.Proofs.RestoredSemantics
import ShaderPair.Proofs.LetterCase
import ShaderPair.Proofs.CollapsedLines
import ShaderPair.Proofs.HiddenDirectives
import ShaderPair.Proofs.FirstFaults
import ShaderPair.Proofs.HeaderGrammar
import ShaderPair.Proofs.PrimaryOutput
import ShaderPair.Proofs.SplitMarker
import ShaderPair.Proofs.TokenGrammar
import ShaderPair.Proofs.RenamedWords
import ShaderPair.Proofs.MatrixSplices
import ShaderPair.Proofs.HeaderBoundary
import ShaderPair.Proofs.DirectiveSearch
import ShaderPair.Proofs.LoadOrderLines
import ShaderPair.Proofs.ClipStatement
import ShaderPair.Proofs.DeclaredLines
import ShaderPair.Proofs.RevealedWords
import ShaderPair.Proofs.CommentedLog
import ShaderPair.Proofs.DecodedBytes
import ShaderPair.Proofs.DurationText
import ShaderPair.Proofs.GivenTimeout
