import SwatchIndex.Text.Letter
import SwatchIndex.Text.Lowercase
import SwatchIndex.Text.Quoted
import SwatchIndex.Text.Spelling
import SwatchIndex.Declaration.Scan
import SwatchIndex.Registry.Alias
import SwatchIndex.Registry.Holder
import SwatchIndex.Editor.Decoration
import SwatchIndex.Editor.Item
import SwatchIndex.Files.Tree
import SwatchIndex.Files.NamePattern
import SwatchIndex.Files.Discovery
import SwatchIndex.Encoding.Bytes
import SwatchIndex.Document.Printer
import SwatchIndex.Document.Json
import SwatchIndex.Document.Relaxed
import SwatchIndex.Settings.Draft
import SwatchIndex.Settings.Payload
import SwatchIndex.Settings.Config
import SwatchIndex.Journal.Event
import SwatchIndex.Journal.Topics
import SwatchIndex.Journal.Template
import SwatchIndex.Session
import SwatchIndex.CommandLine.Arguments
import SwatchIndex.CommandLine.Run
import SwatchIndex.Main
import SwatchIndex.Proofs.Joining
import SwatchIndex.Proofs.Indexed
import SwatchIndex.Proofs.Completing
import SwatchIndex.Proofs.Snapshots
import SwatchIndex.Proofs.Caching
import SwatchIndex.Proofs.Depths
import SwatchIndex.Proofs.Contexts
import SwatchIndex.Proofs.Bounds
import SwatchIndex.Proofs.Ranks
import SwatchIndex.Proofs.Denotations
import SwatchIndex.Proofs.Patterns
import SwatchIndex.Proofs.Globs
import SwatchIndex.Proofs.Discovered
import SwatchIndex.Proofs.Checking
import SwatchIndex.Proofs.Overriding
import SwatchIndex.Proofs.Reloading
import SwatchIndex.Proofs.Unreadable
import SwatchIndex.Proofs.Searches
import SwatchIndex.Proofs.References
import SwatchIndex.Proofs.Tracing
