import PageBehaviors.Browser.Event
import PageBehaviors.Document.Memory
import PageBehaviors.Document.Unreliable
import PageBehaviors.Proofs.Action.Relation
import PageBehaviors.Proofs.Cookie.Segments
import PageBehaviors.Proofs.Document.Simulation
import PageBehaviors.Proofs.Document.Recorded
import PageBehaviors.Proofs.Section.Toggle
import PageBehaviors.Proofs.Page.Operations
import PageBehaviors.Proofs.Document.Nodes
import PageBehaviors.Proofs.Section.Nodes
import PageBehaviors.Proofs.Page.Alternation
import PageBehaviors.Proofs.Page.Icons
import PageBehaviors.Proofs.Browser.Element
import PageBehaviors.Proofs.Browser.Markup
import PageBehaviors.Proofs.Browser.Calls
import PageBehaviors.Proofs.Browser.Mirrors
import PageBehaviors.Proofs.Browser.Simulation
import PageBehaviors.Proofs.Browser.Interchange
import PageBehaviors.Proofs.Browser.Starts
import PageBehaviors.Proofs.Browser.Discovery
import PageBehaviors.Proofs.Browser.Clicks
import PageBehaviors.Proofs.Document.Edits
import PageBehaviors.Proofs.FormToken.Injection
import PageBehaviors.Proofs.Document.Frame
import PageBehaviors.Proofs.Page.Frame
import PageBehaviors.Proofs.Document.Schedules
import PageBehaviors.Proofs.Document.Passes
import PageBehaviors.Proofs.Document.Reliable
import PageBehaviors.Proofs.Page.Repetition
import PageBehaviors.Proofs.Document.Lifting
import PageBehaviors.Proofs.Document.Veil
import PageBehaviors.Proofs.Page.Secrecy
import PageBehaviors.Proofs.Page.Independence
import PageBehaviors.Proofs.Page.Warnings
import PageBehaviors.Proofs.Section.Failures
import PageBehaviors.Proofs.Browser.Toggle
import PageBehaviors.Proofs.Json.Grammar
import PageBehaviors.Proofs.Json.Quotation
import PageBehaviors.Proofs.Json.Number
import PageBehaviors.Proofs.Json.Skip
import PageBehaviors.Proofs.Json.Record
import PageBehaviors.Proofs.Config.Meaning
import PageBehaviors.Proofs.Config.RoundTrip
import PageBehaviors.Proofs.Json.Syntax
import PageBehaviors.Proofs.Json.Tokens
import PageBehaviors.Proofs.Json.Acceptance
import PageBehaviors.Proofs.Json.Strict
import PageBehaviors.Proofs.Config.Malformed
import PageBehaviors.Proofs.Browser.Rejection
import PageBehaviors.Proofs.Browser.Levels
import PageBehaviors.Proofs.Browser.Listening
import PageBehaviors.Proofs.FormToken.Failures
import PageBehaviors.Proofs.Section.Period
import PageBehaviors.Proofs.Section.Order
import PageBehaviors.Proofs.Browser.Fields
import PageBehaviors.Proofs.FormToken.Atomicity
