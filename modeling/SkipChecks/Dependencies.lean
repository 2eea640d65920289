import SkipChecks.Text.Phrase
import SkipChecks.Text.Scan

/-!
# What a test depends on

A test body is searched for a few fixed shapes: calls that name a route, factory chains that end in
a known method, and copy that only starter-kit pages show. Nothing is parsed, so what is written in
any other way goes unnoticed.
-/

namespace SkipChecks

structure Method where
  className : Text
  name : Text
  deriving DecidableEq, Repr

/-- What a test depends on. -/
structure Dependencies where
  routes : List Text
  methods : List Method
  starterKit : Bool
  deriving DecidableEq, Repr

namespace Dependencies

/-- How the calls begin that name a route as their first argument. -/
def routeCalls : List Text :=
  ["route(".toList, "URL::temporarySignedRoute(".toList, "URL::signedRoute(".toList]

/-- A call that begins in this way and goes on with a quoted name. -/
def call? (opening : Text) : Text.Recogniser Text := fun s =>
  (opening.isPrefixOf? s).bind Text.quotedName?

/-- The names in the calls that begin in this way, from left to right. -/
def namesCalled (opening body : Text) : List Text := (Text.findAll (call? opening) body).map (·.1)

/-- The class that the known factory methods belong to. -/
def userFactory : Text := "Database\\Factories\\UserFactory".toList

/-- The factory methods that are known. -/
def factoryMethods : List Text := ["withoutTwoFactor".toList, "unverified".toList]

/-- The chain that calls a method of the user factory. -/
def factoryChain (method : Text) : Text := "User::factory()->".toList ++ method ++ "()".toList

/-- Copy of starter-kit pages. The apostrophe of the first phrase may be written in any way. -/
def starterKitCopy : List (List Text) :=
  [["Let".toList, "s get started".toList], ["Create an account".toList],
    ["Log in to your account".toList], ["Enter your email and password below".toList],
    ["Enter your details below to create".toList]]

/-- The names of a list of calls, first ones first, and everything else as it is. -/
def ofNames (names : List Text) (methods : List Method) (starterKit : Bool) : Dependencies :=
  ⟨names.eraseDups, methods, starterKit⟩

/-- What a test body depends on. -/
def scan (body : Text) : Dependencies :=
  ofNames (routeCalls.flatMap fun opening => namesCalled opening body)
    ((factoryMethods.filter fun method => Text.contains (factoryChain method) body).map
      fun method => ⟨userFactory, method⟩)
    (starterKitCopy.any fun phrase => Text.mentions phrase body)

def isEmpty (d : Dependencies) : Bool := d.routes.isEmpty && d.methods.isEmpty && !d.starterKit

example :
    scan "route('a'); URL::signedRoute(\"b\"); route('a')".toList = ⟨[['a'], ['b']], [], false⟩ := by
  decide +kernel

end Dependencies

end SkipChecks
