import TagSchema.Calendar.Timestamp
import TagSchema.Check.Basic
import TagSchema.Check.Predicates
import TagSchema.Coerce.Complex
import TagSchema.Coerce.Error
import TagSchema.Coerce.Integer
import TagSchema.Coerce.Literal
import TagSchema.Coerce.Scalar
import TagSchema.Command.Argument
import TagSchema.Command.Basic
import TagSchema.Command.Run
import TagSchema.Config.Basic
import TagSchema.Config.OfToml
import TagSchema.Emit.Base
import TagSchema.Emit.Error
import TagSchema.Emit.Expression
import TagSchema.Emit.File
import TagSchema.Emit.Import
import TagSchema.Emit.Layout
import TagSchema.Emit.Literal
import TagSchema.Emit.Settings
import TagSchema.FileTree.Access
import TagSchema.FileTree.Basic
import TagSchema.Generate.Package
import TagSchema.Generate.Source
import TagSchema.Go.Expr
import TagSchema.Go.Name
import TagSchema.Go.Quoted
import TagSchema.Go.Reader
import TagSchema.Go.StructTag
import TagSchema.Go.Token
import TagSchema.Go.TypeExpr
import TagSchema.Json.Basic
import TagSchema.Json.Numeral
import TagSchema.Json.Reader
import TagSchema.Json.Writer
import TagSchema.Main
import TagSchema.Network.Address
import TagSchema.Network.Url
import TagSchema.Number.Binary
import TagSchema.Number.Digits
import TagSchema.Number.Integer
import TagSchema.Number.Read
import TagSchema.Number.Shortest
import TagSchema.Number.Text
import TagSchema.Path
import TagSchema.Pattern.Catalog
import TagSchema.Pattern.Identifier
import TagSchema.Pattern.Iso
import TagSchema.Pattern.Network
import TagSchema.Pattern.Primitive
import TagSchema.Pattern.Template
import TagSchema.Pattern.Web
import TagSchema.Predicate.Format
import TagSchema.Predicate.Iso
import TagSchema.Predicate.Length
import TagSchema.Predicate.Numeric
import TagSchema.Predicate.Structural
import TagSchema.Predicate.Text
import TagSchema.Project.Basic
import TagSchema.Project.Error
import TagSchema.Project.Write
import TagSchema.Record.Basic
import TagSchema.Record.Codec
import TagSchema.Record.OfSource
import TagSchema.Regex.Basic
import TagSchema.Regex.CharSet
import TagSchema.Regex.ClassName
import TagSchema.Regex.Limit
import TagSchema.Regex.Matcher
import TagSchema.Regex.Reader
import TagSchema.Rule.Basic
import TagSchema.Rule.Kind
import TagSchema.Scan.Basic
import TagSchema.Scan.Filter
import TagSchema.Scan.Ignore
import TagSchema.Scan.IgnorePattern
import TagSchema.Shape.Basic
import TagSchema.Shape.Codec
import TagSchema.Shape.Index
import TagSchema.Shape.Primitive
import TagSchema.Tag.Basic
import TagSchema.Tag.Error
import TagSchema.Tag.Param
import TagSchema.Tag.Token
import TagSchema.Text.Base64
import TagSchema.Text.Camel
import TagSchema.Text.Case
import TagSchema.Text.CaseTables
import TagSchema.Text.Category
import TagSchema.Text.Category.Letters
import TagSchema.Text.Category.Marks
import TagSchema.Text.Category.Signs
import TagSchema.Text.Fields
import TagSchema.Text.Keyed
import TagSchema.Text.Property
import TagSchema.Text.Property.Tables
import TagSchema.Text.Quoted
import TagSchema.Text.Run
import TagSchema.Text.Script
import TagSchema.Text.Trim
import TagSchema.Text.Utf8
import TagSchema.Toml.Basic
import TagSchema.Toml.Reader
import TagSchema.Value.Basic
import TagSchema.Value.OfJson
import TagSchema.Proofs.Except
import TagSchema.Proofs.Tag.Scan
import TagSchema.Proofs.Text.Trim
import TagSchema.Proofs.Tag.Param
import TagSchema.Proofs.Tag.RoundTrip
import TagSchema.Proofs.Emit.Expression
import TagSchema.Proofs.Emit.Family
import TagSchema.Proofs.Number.Read
import TagSchema.Proofs.Coerce.Text
import TagSchema.Proofs.Check.Fault
import TagSchema.Proofs.Check.Agreement
import TagSchema.Proofs.Path
import TagSchema.Proofs.Text.Utf8
import TagSchema.Proofs.FileTree.Access
import TagSchema.Proofs.Project.Write
import TagSchema.Proofs.Generate.Moved
import TagSchema.Proofs.Generate.Package
import TagSchema.Proofs.Scan.Packages
import TagSchema.Proofs.Project.Fresh
import TagSchema.Proofs.Tag.Spacing
import TagSchema.Proofs.Emit.Chain
import TagSchema.Proofs.Check.Integer
import TagSchema.Proofs.Check.Elements
import TagSchema.Proofs.Project.DryRun
import TagSchema.Proofs.Go.Name
import TagSchema.Proofs.Emit.Names
import TagSchema.Proofs.Go.Code
import TagSchema.Proofs.Number.Text
import TagSchema.Proofs.Emit.Code
import TagSchema.Proofs.Emit.Reference
import TagSchema.Proofs.Emit.Import
import TagSchema.Proofs.Scan.Spelling
import TagSchema.Proofs.Project.Confined
import TagSchema.Proofs.Project.Staging
import TagSchema.Proofs.Project.Changes
import TagSchema.Proofs.Project.HandWritten
import TagSchema.Proofs.Project.Orphans
import TagSchema.Proofs.Generate.Failure
import TagSchema.Proofs.Project.Failure
import TagSchema.Proofs.Coerce.Integer
import TagSchema.Proofs.Emit.SelfReference
import TagSchema.Proofs.Generate.Naming
import TagSchema.Proofs.Go.StructTag
import TagSchema.Proofs.Number.Rounding
import TagSchema.Proofs.Number.Value
import TagSchema.Proofs.Check.Fold
import TagSchema.Proofs.Check.Wide
import TagSchema.Proofs.Coerce.Whole
import TagSchema.Proofs.Coerce.Wide
import TagSchema.Proofs.Shape.Resolution
import TagSchema.Proofs.Shape.Dependency
import TagSchema.Proofs.Shape.Expansion
import TagSchema.Proofs.Shape.Origin
import TagSchema.Proofs.Emit.Instantiation
import TagSchema.Proofs.Generate.Local
import TagSchema.Proofs.Tag.Joined
import TagSchema.Proofs.Go.Quoted
import TagSchema.Proofs.Text.Keyed
import TagSchema.Proofs.Json.Order
import TagSchema.Proofs.Record.Codec
import TagSchema.Proofs.Regex.Matcher
import TagSchema.Proofs.Regex.Language
import TagSchema.Proofs.Network.Address
import TagSchema.Proofs.Pattern.Network
import TagSchema.Proofs.Predicate.Format
import TagSchema.Pattern.Source
import TagSchema.Proofs.Predicate.Block
import TagSchema.Proofs.Regex.Alike
import TagSchema.Proofs.Pattern.Source
import TagSchema.Proofs.Regex.Reader
import TagSchema.Proofs.Pattern.Template
import TagSchema.Proofs.Predicate.Octets
import TagSchema.Proofs.Pattern.Iso
import TagSchema.Proofs.Pattern.Date
import TagSchema.Proofs.Predicate.Duration
import TagSchema.Proofs.Predicate.Numeric
import TagSchema.Proofs.Text.Mapped
import TagSchema.Proofs.Predicate.Case
import TagSchema.Proofs.Number.Shortest
import TagSchema.Proofs.Coerce.Complex
import TagSchema.Proofs.Coerce.Literal
import TagSchema.Proofs.Emit.Keys
import TagSchema.Proofs.Emit.Layout
