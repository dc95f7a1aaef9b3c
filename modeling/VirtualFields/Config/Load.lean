import VirtualFields.Config.Basic
import VirtualFields.Level
import VirtualFields.Settings.Document
import VirtualFields.Text.QualifiedName

/-!
# Loading configurations

A configuration is read from a settings document with up to three keys; a key that is
missing leaves its default value.  Every class listed in the configuration, given or by
default, must be a qualified name.  Loading fails with the first of these causes: the file
cannot be read, the text is malformed or has an unknown key or a value of the wrong kind,
or a listed class is no qualified name.
-/

namespace VirtualFields.Config

/-- What reading a file comes to. -/
inductive FileContent where
  /-- There is no such file. -/
  | missing
  /-- The file is a directory. -/
  | directory
  | bytes (content : ByteArray)

/-- Why a file could not be read as text. -/
inductive ReadError where
  | missing
  | directory
  | invalidEncoding
  deriving DecidableEq

/-- The text of a reading error. -/
def ReadError.text : ReadError → String
  | missing => "No such file or directory (os error 2)"
  | directory => "Is a directory (os error 21)"
  | invalidEncoding => "stream did not contain valid UTF-8"

/-- The text that a file holds. -/
def FileContent.text? : FileContent → Except ReadError String
  | missing => .error .missing
  | directory => .error .directory
  | bytes content =>
    match String.fromUTF8? content with
    | some text => .ok text
    | none => .error .invalidEncoding

/-- Why a configuration could not be loaded. -/
inductive Error where
  | unreadable (file : String) (cause : ReadError)
  | malformed (origin : String)
  | invalidClassName (name : String)
  deriving DecidableEq

/-- The text of an error. -/
def Error.text : Error → String
  | unreadable file cause => "I/O error while reading '" ++ file ++ "': " ++ cause.text
  | malformed origin => "Failed to parse analysis configuration '" ++ origin ++ "'"
  | invalidClassName name =>
    "Class name `" ++ name ++ "` listed in the configuration is not a valid qualified name"

/-- The message that a configuration was loaded, with the numbers of classes and
annotations in it. -/
structure Loaded where
  origin : String
  untrustedClasses : Nat
  writeAnnotations : Nat
  deriving DecidableEq

/-- The line that shows the message. -/
def Loaded.line (m : Loaded) : String :=
  Level.debug.line ("Loaded analysis configuration from " ++ m.origin ++ " ("
    ++ toString m.untrustedClasses ++ " untrusted classes, "
    ++ toString m.writeAnnotations ++ " implicit-write annotations)")

/-- The outcome of loading a configuration, and the messages sent on the way. -/
structure Outcome where
  result : Except Error Config
  messages : List Loaded := []

/-- The configuration with one entry of a document, if its key is known and its value is one
of the kind that the key takes. -/
def set? (c : Config) : String × Settings.Setting → Option Config
  | ("trust_field_initializers", s) => s.asFlag?.map fun b => { c with trustInitializers := b }
  | ("untrusted_classes", s) => s.asNames?.map fun ss => { c with untrustedClasses := ss }
  | ("implicit_write_annotations", s) => s.asNames?.map fun ss => { c with writeAnnotations := ss }
  | _ => none

/-- The configuration that a settings document describes. -/
def ofDocument? (d : Settings.Document) : Option Config :=
  d.entries.foldlM set? {}

/-- The first listed class that is no qualified name. -/
def invalidName? (c : Config) : Option String :=
  (c.untrustedClasses ++ c.writeAnnotations).find? fun name => !Text.isQualifiedName name

/-- The configuration in the document that a reader finds in a text; the origin names the text
in messages. -/
def ofTextBy (read : Settings.Reader) (text origin : String) : Outcome :=
  match (read text).bind ofDocument? with
  | none => ⟨.error (.malformed origin), []⟩
  | some c =>
    match c.invalidName? with
    | some name => ⟨.error (.invalidClassName name), []⟩
    | none => ⟨.ok c, [⟨origin, c.untrustedClasses.length, c.writeAnnotations.length⟩]⟩

/-- The configuration in a text. -/
def ofText (text origin : String) : Outcome :=
  ofTextBy Settings.Document.parse? text origin

/-- The configuration in a file. -/
def ofFile (file : String) (content : FileContent) : Outcome :=
  match content.text? with
  | .error cause => ⟨.error (.unreadable file cause), []⟩
  | .ok text => ofText text file

end VirtualFields.Config
