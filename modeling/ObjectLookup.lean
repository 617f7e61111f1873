import ObjectLookup.Main
import ObjectLookup.Proofs.CommandLine.Agreement
import ObjectLookup.Proofs.CommandLine.ContextEntries
import ObjectLookup.Proofs.CommandLine.Ledger
import ObjectLookup.Proofs.CommandLine.Refusal
import ObjectLookup.Proofs.CommandLine.Secrecy
import ObjectLookup.Proofs.Decimal.Reader
import ObjectLookup.Proofs.Delegate.Load
import ObjectLookup.Proofs.Format.MediaType
import ObjectLookup.Proofs.Resolver.Cause
import ObjectLookup.Proofs.Resolver.Deferral
import ObjectLookup.Proofs.Resolver.Precedence
import ObjectLookup.Proofs.Resolver.Recollection
import ObjectLookup.Proofs.Resolver.SharedClient
import ObjectLookup.Proofs.S3.Body
import ObjectLookup.Proofs.S3.Lifecycle
import ObjectLookup.Proofs.Scripted.Catalogue
import ObjectLookup.Proofs.Scripted.Supply
import ObjectLookup.Proofs.Settings.Form
import ObjectLookup.Proofs.Settings.Timeouts
import ObjectLookup.Proofs.Storage.ReadOnce
import ObjectLookup.Proofs.Storage.Sharing
import ObjectLookup.Proofs.Strategy.Dynamic
import ObjectLookup.Proofs.Text.LowerCase
import ObjectLookup.Proofs.Text.Trimming
