import RepoAtlas.Graph.Basic

/-!
# Architectures

Rules on frameworks and entry points that hint at how a project is built.
-/

namespace RepoAtlas

/-- What the rules look at. -/
structure ProjectFacts where
  hasLanguages : Bool
  frameworks : List Text
  entryPoints : List Path
  /-- More entry points than this hint at several packages. -/
  manyEntryPoints : Int := 10

namespace ProjectFacts

def usesAny (facts : ProjectFacts) (names : List String) : Bool :=
  facts.frameworks.any fun f => names.any fun n => n.toList == f

/-- Whether some entry point contains one of the given texts, in any case. -/
def entersBy (facts : ProjectFacts) (parts : List String) : Bool :=
  facts.entryPoints.any fun p => parts.any fun part => Text.occursIn part.toList (Text.lower p)

end ProjectFacts

structure ArchitectureRule where
  architecture : Architecture
  applies : ProjectFacts → Bool

namespace ArchitectureRule

def reactFamily : List String := ["Next.js", "React"]

def stock : List ArchitectureRule := [
  { architecture :=
      ⟨"App Router / File-based routing".toList, "high".toList,
        some "app/ directory with page/layout files".toList⟩
    applies := fun facts => facts.usesAny reactFamily && facts.entersBy ["app/", "page"] },
  { architecture :=
      ⟨"Pages Router (Next.js)".toList, "medium".toList, some "pages/ directory detected".toList⟩
    applies := fun facts => facts.entersBy ["pages/"] },
  { architecture :=
      ⟨"API routes / Backend layer".toList, "medium".toList, some "API entry points present".toList⟩
    applies := fun facts => facts.usesAny ["Next.js", "Express"] && facts.entersBy ["api"] },
  { architecture :=
      ⟨"MVT (Model-View-Template)".toList, "high".toList, some "Django project layout".toList⟩
    applies := fun facts => facts.usesAny ["Django"] },
  { architecture :=
      ⟨"MVC (Model-View-Controller)".toList, "medium".toList,
        some "MVC web framework detected".toList⟩
    applies := fun facts => facts.usesAny
      ["Ruby on Rails", "Laravel", "Spring Boot", "ASP.NET Core", "Symfony", "CakePHP"] },
  { architecture :=
      ⟨"Service-oriented API".toList, "medium".toList,
        some "Lightweight HTTP framework with route handlers".toList⟩
    applies := fun facts => facts.usesAny
      ["Flask", "FastAPI", "Gin", "Echo", "Fiber", "Chi", "Express", "Fastify", "Koa", "NestJS",
        "Sinatra", "Actix Web", "Axum", "Rocket", "Ktor", "Vapor"] },
  { architecture :=
      ⟨"Layered (lib/components + types)".toList, "low".toList,
        some "TypeScript + React/Next with common structure".toList⟩
    applies := fun facts =>
      facts.hasLanguages && facts.usesAny reactFamily && facts.usesAny ["TypeScript"] },
  { architecture :=
      ⟨"Monorepo / Multi-package".toList, "medium".toList,
        some "Many entry points across packages".toList⟩
    applies := fun facts => decide (facts.manyEntryPoints < facts.entryPoints.length) },
  { architecture :=
      ⟨"Mobile application".toList, "medium".toList, some "Mobile UI framework detected".toList⟩
    applies := fun facts => facts.usesAny ["Flutter", "React Native"] }]

end ArchitectureRule

namespace Architecture

/-- What is assumed when no rule applies. -/
def conventional : Architecture where
  name := "Conventional file-based structure"
  confidence := "low"
  hint := some "Standard entry points and file layout".toList

/-- The architectures whose rules apply, in the order of the rules; never none. -/
def detect (rules : List ArchitectureRule) (facts : ProjectFacts) : List Architecture :=
  match (rules.filter (·.applies facts)).map (·.architecture) with
  | [] => [conventional]
  | found => found

end Architecture

end RepoAtlas
