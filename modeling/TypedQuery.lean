import TypedQuery.Derive.Declaration
import TypedQuery.Json.Document
import TypedQuery.Query.ConfigReader
import TypedQuery.Query.Session
import TypedQuery.Proofs.Query.SinglePass
import TypedQuery.Proofs.Query.Pruning
import TypedQuery.Proofs.Query.Histories
import TypedQuery.Proofs.Query.Isolation
import TypedQuery.Proofs.Query.Termination
import TypedQuery.Proofs.Query.Visiting
import TypedQuery.Proofs.Query.Registrations
import TypedQuery.Proofs.Query.ReadBack
import TypedQuery.Proofs.Shape.Layers
import TypedQuery.Proofs.Query.Wrapping
import TypedQuery.Proofs.Text.Quoting
import TypedQuery.Proofs.Text.Reading
import TypedQuery.Proofs.Literal.Basic
import TypedQuery.Proofs.Literal.Numbers
import TypedQuery.Proofs.Literal.Roundtrip
import TypedQuery.Proofs.Literal.Keys
import TypedQuery.Proofs.Selection.Reader
import TypedQuery.Proofs.Selection.Decoding
import TypedQuery.Proofs.Query.OperationLog
import TypedQuery.Proofs.Query.Interleaving
import TypedQuery.Proofs.Literal.Composition
import TypedQuery.Proofs.Naming.Addressable
import TypedQuery.Proofs.Naming.Snake
import TypedQuery.Proofs.Naming.Collisions
import TypedQuery.Proofs.Query.Selecting
import TypedQuery.Proofs.Json.BareKeys
import TypedQuery.Proofs.Literal.Distinction
import TypedQuery.Proofs.Literal.Moments
import TypedQuery.Proofs.Derive.Selecting
import TypedQuery.Proofs.Query.Policies
import TypedQuery.Proofs.Shape.Registering
import TypedQuery.Proofs.Derive.Agreement
import TypedQuery.Proofs.Shape.ShortNames
import TypedQuery.Proofs.Value.Rearranging
import TypedQuery.Proofs.Derive.TableNames
