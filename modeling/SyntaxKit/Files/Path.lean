import SyntaxKit.Text.Utf8

/-!
# Paths

A path is some bytes that name a file; they need not be text.  Its components are what lies between
its slashes: repeated slashes count once, a slash at the end counts for nothing, and a `.` only
counts at the start of a relative path.  `Path.absolute?` makes a path independent of the directory
it is used in; it does so by its bytes alone and follows no links.
-/

namespace SyntaxKit

/-- The name of an entry of a directory: bytes, which need not be text. -/
abbrev Name := List UInt8

instance : Coe (List Char) Name := ⟨Utf8.encode⟩

instance : Coe String Name := ⟨fun s => Utf8.encode s.toList⟩

/-- A path, as it is written. -/
structure Path where
  bytes : List UInt8
deriving DecidableEq, Repr, Inhabited

namespace Path

/-- The path that a text writes. -/
def ofText (t : List Char) : Path := ⟨t⟩

/-- The path that a string writes. -/
def ofString (s : String) : Path := ⟨s⟩

/-- A path as it is shown, with a replacement for what is no text. -/
def shown (p : Path) : List Char := Utf8.decode p.bytes

/-- The string that shows a path. -/
def toString (p : Path) : String := String.ofList p.shown

instance : ToString Path := ⟨toString⟩

/-! ## The bytes that mean something -/

/-- The byte that stands between names. -/
abbrev slashByte : UInt8 := 0x2F

/-- The byte in front of an extension. -/
abbrev dotByte : UInt8 := 0x2E

/-- The byte that stands for a home directory. -/
abbrev tildeByte : UInt8 := 0x7E

/-! ## Components -/

/-- A step of a path. -/
inductive Component where
  | root
  | current
  | parent
  | normal (name : Name)
deriving DecidableEq, Repr

/-- The stretches of a path between its slashes, of which there is always one more than slashes. -/
def split : List UInt8 → List (List UInt8)
  | [] => [[]]
  | b :: t =>
    if b = slashByte then [] :: split t
    else
      match split t with
      | part :: parts => (b :: part) :: parts
      | [] => [[b]]

/-- Whether a path starts at the root. -/
def isAbsolute (p : Path) : Bool := p.bytes.head? == some slashByte

/-- Whether a path ends with a slash. -/
def endsWithSlash (p : Path) : Bool := p.bytes.getLast? == some slashByte

/-- The component that a stretch between slashes stands for, unless it stands for nothing. -/
def component? (part : List UInt8) : Option Component :=
  if part = [] || part = [dotByte] then none
  else if part = [dotByte, dotByte] then some .parent
  else some (.normal part)

/-- The components of a path. -/
def components (p : Path) : List Component :=
  let parts := split p.bytes
  let start : List Component :=
    if p.isAbsolute then [.root] else if parts.head? == some [dotByte] then [.current] else []
  start ++ parts.filterMap component?

/-- The bytes of a component. -/
def Component.bytes : Component → List UInt8
  | .root => [slashByte]
  | .current => [dotByte]
  | .parent => [dotByte, dotByte]
  | .normal name => name

/-- A path followed by another.  An absolute path takes the place of what is before it, and a slash
is only put in where there is none. -/
def join (p q : Path) : Path :=
  if q.isAbsolute then q
  else if p.bytes = [] || p.endsWithSlash then ⟨p.bytes ++ q.bytes⟩
  else ⟨p.bytes ++ slashByte :: q.bytes⟩

/-- A path followed by a name. -/
def child (p : Path) (name : String) : Path := p.join (ofString name)

/-- A path followed by some names. -/
def descend (p : Path) (names : List Name) : Path := names.foldl (fun p name => p.join ⟨name⟩) p

/-- The path of some components, each joined to those before it. -/
def ofComponents (cs : List Component) : Path := cs.foldl (fun p c => p.join ⟨c.bytes⟩) ⟨[]⟩

/-- The name at the end of a path, if a name is there. -/
def fileName? (p : Path) : Option Name :=
  match p.components.getLast? with
  | some (.normal name) => some name
  | _ => none

/-- What stands behind the last point of a name, if something stands before it. -/
def extensionOf? (name : Name) : Option (List UInt8) :=
  let reversed := name.reverse
  match reversed.dropWhile (· != dotByte) with
  | _ :: _ :: _ => some (reversed.takeWhile (· != dotByte)).reverse
  | _ => none

/-- The extension of the name at the end of a path. -/
def extension? (p : Path) : Option (List UInt8) := p.fileName?.bind extensionOf?

/-! ## Order -/

/-- The place of a component in the order of components: names come last, by their bytes. -/
def Component.key : Component → List Nat
  | .root => [0]
  | .current => [1]
  | .parent => [2]
  | .normal name => 3 :: name.map UInt8.toNat

/-- The place of a path in the order of paths. -/
def key (p : Path) : List (List Nat) := p.components.map Component.key

/-- Whether a path comes before another or is ordered like it: paths are compared component by
component, so what is in a directory stays together. -/
def le (p q : Path) : Bool := !List.lex q.key p.key fun m n => List.lex m n Nat.blt

/-! ## Absolute paths -/

/-- The path with a home directory in the place of a `~` at its start. -/
def expandHome (home : Option Path) (p : Path) : Path :=
  match home, p.components with
  | some home, .normal name :: rest =>
    if name = [tildeByte] then home.join (ofComponents rest) else p
  | _, _ => p

/-- The path at which the components of an absolute path begin: two slashes at the start are kept,
and only those. -/
def absoluteStart (p : Path) : Path :=
  if p.bytes.take 2 = [slashByte, slashByte] && p.bytes[2]? != some slashByte then
    ⟨[slashByte, slashByte]⟩
  else ⟨[slashByte]⟩

/-- The components of a path that move away from where it starts. -/
def moves (p : Path) : List Component :=
  match p.components with
  | .root :: rest | .current :: rest => rest
  | cs => cs

/-- The absolute path that a path stands for in a working directory, unless it is empty. -/
def absolute? (p workingDirectory : Path) : Option Path :=
  if p.bytes = [] then none
  else
    let start := if p.isAbsolute then p.absoluteStart else workingDirectory
    let q := p.moves.foldl (fun q c => q.join ⟨c.bytes⟩) start
    some (if p.endsWithSlash then q.join ⟨[]⟩ else q)

end Path

end SyntaxKit
