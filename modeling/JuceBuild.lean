import JuceBuild.Text.CodeRange
import JuceBuild.Text.Blank
import JuceBuild.Text.DecimalDigit
import JuceBuild.Text.WordChar
import JuceBuild.Text.Printable
import JuceBuild.Text.Quoted
import JuceBuild.Text.Escape
import JuceBuild.Text.Split
import JuceBuild.Text.Identifier
import JuceBuild.Text.Utf8
import JuceBuild.Text.Lines
import JuceBuild.Text.LeadingInt
import JuceBuild.Path
import JuceBuild.Path.Lexical
import JuceBuild.FileStore
import JuceBuild.Xml.Node
import JuceBuild.Xml.Character
import JuceBuild.Xml.Name
import JuceBuild.Xml.Reference
import JuceBuild.Xml.Markup
import JuceBuild.Xml.Doctype.Token
import JuceBuild.Xml.Doctype.Declaration
import JuceBuild.Xml.Entity
import JuceBuild.Xml.Doctype
import JuceBuild.Xml.Tag
import JuceBuild.Xml.Namespace
import JuceBuild.Xml.CodePage
import JuceBuild.Xml.Encoding
import JuceBuild.Xml.Prolog
import JuceBuild.Xml.Document
import JuceBuild.Project.FileEntry
import JuceBuild.Project.Group
import JuceBuild.Project.Kind
import JuceBuild.Failure
import JuceBuild.Exporter.Basic
import JuceBuild.Project.Basic
import JuceBuild.Script.Block
import JuceBuild.Script.Setting
import JuceBuild.Script.Reader
import JuceBuild.FileGroup
import JuceBuild.Exporter.SearchPath
import JuceBuild.Module.Header
import JuceBuild.Module.Reference
import JuceBuild.Exporter.Target
import JuceBuild.Script.Reprojucer
import JuceBuild.Script.Juce6
import JuceBuild.Conversion
import JuceBuild.CommandLine.Word
import JuceBuild.CommandLine.Request
import JuceBuild.CommandLine.Run
import JuceBuild.Main
import JuceBuild.Proofs.Outcome
import JuceBuild.Proofs.Text.Split
import JuceBuild.Proofs.Text.Case
import JuceBuild.Proofs.Path.Text
import JuceBuild.Proofs.FileStore.Walk
import JuceBuild.Proofs.FileStore.Write
import JuceBuild.Proofs.FileStore.Base
import JuceBuild.Proofs.FileGroup.Runs
import JuceBuild.Proofs.FileGroup.Texts
import JuceBuild.Proofs.Script.Tokens
import JuceBuild.Proofs.Script.Lines
import JuceBuild.Proofs.Script.Commands
import JuceBuild.Proofs.Script.PartCommands
import JuceBuild.Proofs.Script.ReadBack
import JuceBuild.Proofs.Exporter.Calls
import JuceBuild.Proofs.Conversion.Plan
import JuceBuild.Proofs.Conversion.SameProject
import JuceBuild.Proofs.Conversion.Spelling
import JuceBuild.Proofs.Exporter.SearchPath
import JuceBuild.Proofs.Conversion.Inclusion
import JuceBuild.Proofs.Module.Reference
import JuceBuild.Proofs.Conversion.Rerun
import JuceBuild.Proofs.Text.LeadingInt
import JuceBuild.Proofs.Project.Numbers
import JuceBuild.Proofs.Conversion.Escape
import JuceBuild.Proofs.CommandLine.Report
import JuceBuild.Proofs.Conversion.Obstacle
import JuceBuild.Proofs.Script.Stanzas
import JuceBuild.Proofs.FileGroup.Stanzas
import JuceBuild.Proofs.Script.Outline
import JuceBuild.Proofs.FileGroup.Files
import JuceBuild.Proofs.FileGroup.Listing
import JuceBuild.Proofs.Xml.Part
import JuceBuild.Proofs.Project.Erasure
import JuceBuild.Proofs.CommandLine.Flags
import JuceBuild.Proofs.CommandLine.Order
import JuceBuild.Proofs.CommandLine.Streams
import JuceBuild.Proofs.Text.Utf8
import JuceBuild.Proofs.Xml.Written
import JuceBuild.Proofs.Xml.Reading
import JuceBuild.Proofs.Xml.Content
import JuceBuild.Proofs.Xml.Declared
import JuceBuild.Proofs.Xml.ReadBack
import JuceBuild.Proofs.Script.Quoted
import JuceBuild.Proofs.Script.Faithful
import JuceBuild.Proofs.FileGroup.ReadBack
import JuceBuild.Proofs.Script.Juce6
import JuceBuild.Proofs.Text.Lines
import JuceBuild.Proofs.Module.Header
import JuceBuild.Proofs.Module.Resolution
import JuceBuild.Proofs.Exporter.Account
import JuceBuild.Proofs.Script.Bodies
import JuceBuild.Proofs.Script.Layout
import JuceBuild.Proofs.Exporter.Host
import JuceBuild.Proofs.Text.Escape
import JuceBuild.Proofs.Text.Pieces
import JuceBuild.Proofs.Text.Numeral
import JuceBuild.Proofs.Path.Suffix
import JuceBuild.Proofs.Project.HeaderOnly
