/-
What global names are bound to.

An environment maps namespaces to scopes.  A scope is a plain mapping or a
module.  A module binds a few names by itself, and a name missing from it is
reported with the module, which shows itself by what some of these names are
bound to.  A namespace that was never given a scope is an empty mapping.
Looking a name up gives the bound value as it is: a global bound to another
global is not followed.
-/
import SsaEdit.Value.Display

namespace SsaEdit

/-- The bindings of a namespace, and whether it is a module. -/
structure Scope where
  isModule : Bool := false
  bindings : List (String × Value) := []

namespace Scope

/-- Under which name a module binds its own name. -/
def nameKey : String := "__name__"

/-- Under which name a module binds the file it was read from. -/
def fileKey : String := "__file__"

/-- Under which name a module binds what loaded it. -/
def loaderKey : String := "__loader__"

/-- Under which name a module binds the record of its origin. -/
def originKey : String := "__spec__"

/-- Under which name a module binds the function that answers for missing names. -/
def fallbackKey : String := "__getattr__"

/-- What a module binds by itself: its name, and the absent value under the names
that the host fills in when it loads a module from somewhere. -/
def ownBindings (name : String) : List (String × Value) :=
  (nameKey, .text name) ::
    ["__doc__", "__package__", loaderKey, originKey].map fun key => (key, .null)

/-- A module with some bindings, which go before its own. -/
def ofModule (name : String) (bindings : List (String × Value)) : Scope :=
  ⟨true, bindings ++ ownBindings name⟩

def lookup (s : Scope) (name : String) : Option Value := s.bindings.lookup name

/-- Bind a name, in place of an earlier binding. -/
def bind (s : Scope) (name : String) (value : Value) : Scope :=
  { s with bindings := (name, value) :: s.bindings.filter (·.1 != name) }

/-- Remove a name. -/
def unbind (s : Scope) (name : String) : Scope :=
  { s with bindings := s.bindings.filter (·.1 != name) }

/-- Where a module comes from: its file, if it binds one, and else its loader,
if that is there. -/
def sourceDisplay (s : Scope) : String :=
  match s.lookup fileKey, s.lookup loaderKey with
  | some file, _ => " from " ++ file.display
  | none, some loader => if loader.isNull then "" else " (" ++ loader.display ++ ")"
  | none, none => ""

/-- How a module shows itself: under the name it binds, with where it comes from. -/
def moduleDisplay (s : Scope) : String :=
  "<module " ++ ((s.lookup nameKey).getD (.text "?")).display ++ s.sourceDisplay ++ ">"

/-- The record of its origin that a module binds, if it counts as true. -/
def origin? (s : Scope) : Option Value := (s.lookup originKey).filter Value.holds

end Scope

/-- The scopes of the namespaces that have one. -/
structure Environment where
  scopes : List (Namespace × Scope) := []

namespace Environment

def empty : Environment := {}

def scope (env : Environment) (home : Namespace) : Scope :=
  (env.scopes.lookup home).getD {}

/-- Replace the scope of a namespace. -/
def setScope (env : Environment) (home : Namespace) (s : Scope) : Environment :=
  ⟨(home, s) :: env.scopes.filter (·.1 != home)⟩

/-- The value a global is bound to now. -/
def lookup? (env : Environment) (g : GlobalRef) : Option Value :=
  (env.scope g.home).lookup g.name

def bind (env : Environment) (g : GlobalRef) (value : Value) : Environment :=
  env.setScope g.home ((env.scope g.home).bind g.name value)

def unbind (env : Environment) (g : GlobalRef) : Environment :=
  env.setScope g.home ((env.scope g.home).unbind g.name)

end Environment

end SsaEdit
