import ApiConsole.Main
import ApiConsole.Proofs.Console.Conservation
import ApiConsole.Proofs.Session.LatestWins
import ApiConsole.Proofs.Session.Replay
import ApiConsole.Proofs.Session.Drafts
import ApiConsole.Proofs.Session.Refused
import ApiConsole.Proofs.Snippet.PythonCalls
import ApiConsole.Proofs.Snippet.ShellWords
import ApiConsole.Proofs.Session.Address
import ApiConsole.Proofs.Session.RestoredPane
import ApiConsole.Proofs.Session.FreshDraft
import ApiConsole.Proofs.Console.Language
import ApiConsole.Proofs.Session.Reach
import ApiConsole.Proofs.Storage
import ApiConsole.Proofs.Request.Placeholder
import ApiConsole.Proofs.Snippet.FetchScript
import ApiConsole.Proofs.Snippet.FetchCall
import ApiConsole.Proofs.Console.Provenance
import ApiConsole.Proofs.Console.GetDrafts
import ApiConsole.Proofs.Response.Images
import ApiConsole.Proofs.Response.ErrorMessage
import ApiConsole.Proofs.Snippet.Exported
import ApiConsole.Proofs.Response.Stored
import ApiConsole.Proofs.Response.ImageAddress
import ApiConsole.Proofs.Endpoint.Search
import ApiConsole.Proofs.Console.Listing
