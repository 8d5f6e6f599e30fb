import JsonDesk.Main
import JsonDesk.Proofs.CanonicalForm
import JsonDesk.Proofs.Exchange
import JsonDesk.Proofs.LiveFeedback
import JsonDesk.Proofs.Messages
import JsonDesk.Proofs.Overwriting
import JsonDesk.Proofs.Restoring
import JsonDesk.RuntimeDirectory
import JsonDesk.Proofs.Warnings
import JsonDesk.Proofs.ComparisonRuns
import JsonDesk.Proofs.LiveComparison
import JsonDesk.Proofs.TabChanges
import JsonDesk.Proofs.TabsInStep
import JsonDesk.Proofs.Locations
import JsonDesk.Proofs.Octets
import JsonDesk.Proofs.SavedFiles
import JsonDesk.Proofs.UnpairedTexts
import JsonDesk.Proofs.SessionFiles
import JsonDesk.Proofs.Closing
import JsonDesk.Proofs.Restart
import JsonDesk.Proofs.AtomicSaving
import JsonDesk.Proofs.WorkerQueue
import JsonDesk.Proofs.Debouncing
import JsonDesk.Proofs.Directories
import JsonDesk.Proofs.LogEntries
import JsonDesk.Proofs.LogBounds
import JsonDesk.Proofs.Balancing
import JsonDesk.Proofs.Offsets
import JsonDesk.Proofs.RemovedCommas
import JsonDesk.Proofs.RemovedQuotes
import JsonDesk.Proofs.Tallies
import JsonDesk.Proofs.Responses
import JsonDesk.Proofs.ExtraClosers
import JsonDesk.Proofs.WholeLines
import JsonDesk.Proofs.NamedPlaces
import JsonDesk.Proofs.Addresses
import JsonDesk.Proofs.LatestBlock
import JsonDesk.Proofs.Sizes
import JsonDesk.Proofs.SavedDocuments
import JsonDesk.Proofs.ClosedWindows
import JsonDesk.Proofs.BelowHome
import JsonDesk.Proofs.QuoteParity
import JsonDesk.Proofs.SuggestedNames
import JsonDesk.Proofs.UntitledTabs
