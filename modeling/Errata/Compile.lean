import Errata.Docs.Catalogue
import Errata.Reply.Table

/-!
# Compiling a unit

Reads a unit and, when nothing is wrong with it, makes its response table and its documentation.
-/

namespace Errata

/-- A taxonomy with its response table and its documentation. -/
structure Compiled where
  taxonomy : Taxonomy
  table : ResponseTable
  catalogue : Docs.Catalogue

namespace Taxonomy

/-- The table and the documentation of a taxonomy. -/
def compiled (t : Taxonomy) (settings : Settings) : Compiled :=
  ⟨t, .ofTaxonomy t settings.logInternalErrors, .ofTaxonomy t⟩

end Taxonomy

/-- The record of a unit that was compiled. -/
def Compiled.record (c : Compiled) : Log.Record :=
  .plain .compilation <|
    s!"Compiled {c.taxonomy.typeName}: {c.taxonomy.cases.length} case(s), " ++
      s!"{c.catalogue.names.length} documentation artifact(s)"

namespace UnitDecl

/-- Compiles a unit. Every diagnostic goes through one context, which is checked once. -/
def compile (u : UnitDecl) (settings : Settings) : Attempt Context.Fault Compiled := do
  Attempt.log u.internalCode.records
  let (taxonomy, context) ← Attempt.lift ((u.read settings.suppressRedundant).run Context.fresh)
  Attempt.lift context.check.1
  let compiled := taxonomy.compiled settings
  Attempt.log [compiled.record]
  return compiled

end UnitDecl

end Errata
