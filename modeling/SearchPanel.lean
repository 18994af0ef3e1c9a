import SearchPanel.Folder
import SearchPanel.LoadedIndex
import SearchPanel.Main
import SearchPanel.Maintenance.Task
import SearchPanel.Page.Event
import SearchPanel.Proofs.Command.Colorless
import SearchPanel.Proofs.LoadedIndex
import SearchPanel.Proofs.LoweredText.Marked
import SearchPanel.Proofs.Options
import SearchPanel.Proofs.Page.Shortcut
import SearchPanel.Proofs.Page.Taken
import SearchPanel.Proofs.Page.Wiring
import SearchPanel.Proofs.Search.Answers
import SearchPanel.Proofs.Search.Case
import SearchPanel.Proofs.Search.Copied
import SearchPanel.Proofs.Session.Alone
import SearchPanel.Proofs.Session.Answered
import SearchPanel.Proofs.Session.Cache
import SearchPanel.Proofs.Session.Commute
import SearchPanel.Proofs.Session.Completion
import SearchPanel.Proofs.Session.Dropped
import SearchPanel.Proofs.Session.Height
import SearchPanel.Proofs.Session.InFlight
import SearchPanel.Proofs.Session.Marks
import SearchPanel.Proofs.Session.Retry
import SearchPanel.Proofs.Session.Shown
import SearchPanel.Proofs.Session.Source
import SearchPanel.Proofs.Snippet.Highlight
import SearchPanel.Proofs.Snippet.Intact
import SearchPanel.Proofs.Snippet.Matching
import SearchPanel.Proofs.Terminal.Highlight
import SearchPanel.Sample
import SearchPanel.Session.Basic
import SearchPanel.Proofs.Stats
import SearchPanel.Proofs.Terminal.Greedy
import SearchPanel.Proofs.Terminal.Stripped
