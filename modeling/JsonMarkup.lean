import JsonMarkup.Cli.Folder
import JsonMarkup.Main
import JsonMarkup.Render.Course
import JsonMarkup.Source.Data
import JsonMarkup.Surface.Memory
import JsonMarkup.Surface.Mount
import JsonMarkup.Surface.Recorder
import JsonMarkup.Web.View
import JsonMarkup.Proofs.Render.Gates
import JsonMarkup.Proofs.Render.Remaining
import JsonMarkup.Proofs.Render.Course
import JsonMarkup.Proofs.Render.Transparency
import JsonMarkup.Proofs.Render.Admission
import JsonMarkup.Proofs.Fields
import JsonMarkup.Proofs.Render.Content
import JsonMarkup.Proofs.Node.Decoding
import JsonMarkup.Proofs.Render.Unambiguous
import JsonMarkup.Proofs.Render.Tightening
import JsonMarkup.Proofs.Render.Rewriting
import JsonMarkup.Proofs.Render.Wanted
import JsonMarkup.Proofs.Render.Script
import JsonMarkup.Proofs.Render.Walk
import JsonMarkup.Proofs.Render.OnDemand
import JsonMarkup.Proofs.Render.Siblings
import JsonMarkup.Proofs.Surface.Settling
import JsonMarkup.Proofs.Surface.Calls
import JsonMarkup.Proofs.Surface.Snapshot
import JsonMarkup.Proofs.Surface.Mounting
import JsonMarkup.Proofs.Surface.Foreign
import JsonMarkup.Proofs.Surface.Rereading
import JsonMarkup.Proofs.Json.Building
import JsonMarkup.Proofs.Source.Collapse
import JsonMarkup.Proofs.Json.Extent
import JsonMarkup.Proofs.Json.Written
import JsonMarkup.Proofs.Json.Writing
import JsonMarkup.Proofs.Source.Written
import JsonMarkup.Proofs.Render.Immediate
import JsonMarkup.Proofs.Web.Building
import JsonMarkup.Proofs.Web.Session
import JsonMarkup.Proofs.Render.Refused
import JsonMarkup.Proofs.Node.Shown
import JsonMarkup.Proofs.Node.Located
import JsonMarkup.Proofs.Cli.Check
import JsonMarkup.Proofs.Render.Reached
import JsonMarkup.Proofs.Render.Spelling
import JsonMarkup.Proofs.Render.Entering
import JsonMarkup.Proofs.Render.Warnings
import JsonMarkup.Proofs.Render.Accounting
import JsonMarkup.Proofs.Node.Lossless
import JsonMarkup.Proofs.Surface.Atomic
import JsonMarkup.Proofs.Surface.Forest
import JsonMarkup.Proofs.Render.Protocol
import JsonMarkup.Proofs.Css.Changes
import JsonMarkup.Proofs.Css.Letters
import JsonMarkup.Proofs.Policy.Sets
import JsonMarkup.Proofs.Cli.Words
import JsonMarkup.Proofs.Cli.Overlay
import JsonMarkup.Proofs.Source.Items
import JsonMarkup.Proofs.Json.Yield
import JsonMarkup.Proofs.Policy.Grammar
import JsonMarkup.Proofs.Policy.Reading
