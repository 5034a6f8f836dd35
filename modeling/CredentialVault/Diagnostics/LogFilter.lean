import CredentialVault.Diagnostics.Directive

/-!
# Filters of diagnostics

A filter is a list of directives, separated by commas. `LogFilter.ofText?` reads one and
`LogFilter.render` writes it with the most specific directives first.
-/

namespace CredentialVault

/-- A filter of diagnostics. -/
structure LogFilter where
  /-- The directives that can be decided for a message alone. -/
  static : List Directive
  /-- The directives that depend on the spans around a message. -/
  dynamic : List Directive
deriving DecidableEq, Repr

namespace LogFilter

/-- The filter of some directives, of which the last one that applies to the same counts. -/
def ofDirectives (ds : List Directive) : LogFilter :=
  let gather (ds : List Directive) : List Directive := ds.foldl (fun kept d => d.insert kept) []
  let dynamic := ds.filter (·.isDynamic)
  let static := ds.filter (!·.isDynamic) ++ dynamic.filter (·.isStatic)
  ⟨gather static, gather dynamic⟩

/-- Reads a filter; one directive that cannot be read spoils it. -/
def ofText? (text : String) : Option LogFilter :=
  (((text.splitOn ",").filter (· ≠ "")).mapM Directive.ofText?).map ofDirectives

/-- The text of a filter. -/
def render (filter : LogFilter) : String :=
  ",".intercalate ((filter.static ++ filter.dynamic).map (·.render))

/-- The filter when nothing is asked for. -/
def quiet : LogFilter := ofDirectives [.forAll .warn]

/-- The filter of a verbose run. -/
def verbose : LogFilter :=
  ofDirectives [⟨some "passkey_vault", none, none, .debug⟩, .forAll .warn]

/-- The filter of a run: that of a verbose one, or what is set if it can be read. -/
def choose (isVerbose : Bool) (setting : Option String) : LogFilter :=
  if isVerbose then verbose else (setting.bind ofText?).getD quiet

end LogFilter

end CredentialVault
