import AuthRelay.Act
import AuthRelay.Charset
import AuthRelay.ContentType
import AuthRelay.Credential.FromEnvironment
import AuthRelay.Credential.Resolver
import AuthRelay.Credential.Set
import AuthRelay.Credential.Source
import AuthRelay.EnvFile.Grammar
import AuthRelay.EnvFile.Interpolation
import AuthRelay.EnvFile.Load
import AuthRelay.Fault
import AuthRelay.Files.Basic
import AuthRelay.Files.Edit
import AuthRelay.Files.Fault
import AuthRelay.Files.PathText
import AuthRelay.Headers
import AuthRelay.Interface
import AuthRelay.Journal
import AuthRelay.Kind
import AuthRelay.Machine
import AuthRelay.Proofs.Absence
import AuthRelay.Proofs.Acts
import AuthRelay.Proofs.Building
import AuthRelay.Proofs.Encodings
import AuthRelay.Proofs.EnvFiles
import AuthRelay.Proofs.EnvironmentCredentials
import AuthRelay.Proofs.Gathering
import AuthRelay.Proofs.HeaderLists
import AuthRelay.Proofs.Loading
import AuthRelay.Proofs.Pairs
import AuthRelay.Proofs.PathGrammar
import AuthRelay.Proofs.PathTexts
import AuthRelay.Proofs.Priority
import AuthRelay.Proofs.Regrouping
import AuthRelay.Proofs.Relay.Attempts
import AuthRelay.Proofs.Relay.Bodies
import AuthRelay.Proofs.Relay.Confinement
import AuthRelay.Proofs.Relay.Course
import AuthRelay.Proofs.Relay.Discharge
import AuthRelay.Proofs.Relay.Flattening
import AuthRelay.Proofs.Relay.Interleaving
import AuthRelay.Proofs.Relay.Moves
import AuthRelay.Proofs.Relay.Noninterference
import AuthRelay.Proofs.Relay.Outgoing
import AuthRelay.Proofs.Relay.Protocol
import AuthRelay.Proofs.Relay.Queries
import AuthRelay.Proofs.Relay.Records
import AuthRelay.Proofs.Relay.Refusals
import AuthRelay.Proofs.Relay.Resending
import AuthRelay.Proofs.Relay.Responses
import AuthRelay.Proofs.Relay.Restamp
import AuthRelay.Proofs.Relay.Stacks
import AuthRelay.Proofs.Relay.Stamp
import AuthRelay.Proofs.Relay.Unsent
import AuthRelay.Proofs.Relay.Watch
import AuthRelay.Proofs.Relay.Writing
import AuthRelay.Proofs.SecretFiles
import AuthRelay.Proofs.SecretTexts
import AuthRelay.Proofs.Secrets.Files
import AuthRelay.Proofs.Secrets.Headers
import AuthRelay.Proofs.Secrets.InStep
import AuthRelay.Proofs.Secrets.Machine
import AuthRelay.Proofs.Secrets.References
import AuthRelay.Proofs.Secrets.Requests
import AuthRelay.Proofs.Secrets.Texts
import AuthRelay.Proofs.Session.Diagnostics
import AuthRelay.Proofs.Session.Environment
import AuthRelay.Proofs.Session.Machine
import AuthRelay.Proofs.Session.Modes
import AuthRelay.Proofs.Session.Rotation
import AuthRelay.Proofs.Session.Secrets
import AuthRelay.Proofs.Session.Thresholds
import AuthRelay.Proofs.Tables
import AuthRelay.Proofs.Tasks
import AuthRelay.Proofs.Thresholds
import AuthRelay.Proofs.WebAddresses
import AuthRelay.Relay.Basic
import AuthRelay.Relay.Blocking
import AuthRelay.Relay.Stepwise
import AuthRelay.Request
import AuthRelay.Response.Basic
import AuthRelay.Response.Reading
import AuthRelay.Session.Carriers
import AuthRelay.Session.Sources
import AuthRelay.Session.Step
import AuthRelay.Session.World
import AuthRelay.Table
import AuthRelay.Text.Base64
import AuthRelay.Text.Base64.Lemmas
import AuthRelay.Text.Blank
import AuthRelay.Text.Case
import AuthRelay.Text.Cased
import AuthRelay.Text.Hex
import AuthRelay.Text.Integer
import AuthRelay.Text.Integer.Lemmas
import AuthRelay.Text.Newline
import AuthRelay.Text.Pieces
import AuthRelay.Text.Printable
import AuthRelay.Text.Quoted
import AuthRelay.Text.Stripped
import AuthRelay.Text.Utf8
import AuthRelay.Text.Utf8.Lemmas
import AuthRelay.Url.Address
import AuthRelay.Url.Basic
import AuthRelay.Url.Parser
import AuthRelay.Url.Percent
import AuthRelay.Url.Reference
