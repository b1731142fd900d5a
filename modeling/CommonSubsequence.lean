import CommonSubsequence.Alignment.Agreement
import CommonSubsequence.Alignment.Embedding
import CommonSubsequence.Alignment.Strings
import CommonSubsequence.Engine.Session
import CommonSubsequence.Proofs.Affixes
import CommonSubsequence.Proofs.Distance
import CommonSubsequence.Proofs.Splitting
import CommonSubsequence.Proofs.Transposition
import CommonSubsequence.Proofs.Alike
import CommonSubsequence.Proofs.Holes
import CommonSubsequence.Engine.Demand
import CommonSubsequence.Proofs.Correspondence
import CommonSubsequence.Proofs.Caching
import CommonSubsequence.Proofs.Sessions
import CommonSubsequence.Proofs.Openings
import CommonSubsequence.Proofs.Nesting
import CommonSubsequence.Proofs.Towers
import CommonSubsequence.Proofs.Indifference
import CommonSubsequence.Proofs.Stacks
import CommonSubsequence.Proofs.Writing
import CommonSubsequence.Proofs.Viewing
import CommonSubsequence.Proofs.Contract
import CommonSubsequence.Proofs.Positions
import CommonSubsequence.Proofs.Absorption
import CommonSubsequence.Proofs.Exactness
import CommonSubsequence.Proofs.Layouts
import CommonSubsequence.Proofs.Deque
import CommonSubsequence.Proofs.Account
import CommonSubsequence.Proofs.Comparison
import CommonSubsequence.Proofs.Foreign
import CommonSubsequence.Proofs.Spelling
