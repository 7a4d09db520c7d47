import TypeSurvey.Config
import TypeSurvey.Program

/-!
# Sample programs

Small programs of known shape: a derivation with a closed vendor, a layered application with a
cycle, two units that refer to each other, and graphs and chains of any size.
-/
namespace TypeSurvey

/-- A program with the declarations by which it may be asked about. -/
structure Sample where
  program : Program
  table : List TypeDecl := []

namespace Sample

/-- The annotation that opts a unit in under the default configuration. -/
def optIn : Annotation := { name := ({} : Config).marker }

def shapesRoot : UnitKey := ⟨"Shapes", "1.0.0"⟩

def shapesVendor : UnitKey := ⟨"Vendor.Shapes", "2.0.0"⟩

def shape : TypeDecl := { unit := shapesRoot, space := "Geometry", name := "Shape", row := some 0 }

def circle : TypeDecl :=
  { unit := shapesRoot, space := "Geometry", name := "Circle", base := some shape, row := some 1 }

def square : TypeDecl :=
  { unit := shapesRoot, space := "Geometry", name := "Square", base := some shape, row := some 2 }

def polygon : TypeDecl :=
  { unit := shapesRoot, space := "Geometry", name := "Polygon", base := some shape,
    modifiers := [.abstractType], row := some 3 }

def triangle : TypeDecl :=
  { unit := shapesVendor, space := "Vendor.Geometry", name := "Triangle", base := some shape,
    row := some 4 }

/-- The vendor has not opted in, so its triangle is not found among the shapes. -/
def shapes : Sample where
  program := .ofUnits
    [.ofTypes shapesRoot [shape, circle, square, polygon] [shapesVendor],
     .ofTypes shapesVendor [triangle]]
  table := [shape, circle, square, polygon, triangle]

def app : UnitKey := ⟨"App", "1.0.0"⟩

def services : UnitKey := ⟨"App.Services", "1.0.0"⟩

def core : UnitKey := ⟨"App.Core", "1.0.0"⟩

def closed : UnitKey := ⟨"Closed.Library", "3.1.0"⟩

def service : Annotation := { name := "Core.ServiceAttribute" }

def serviceAttribute : TypeDecl :=
  { unit := core, space := "Core", name := "ServiceAttribute", row := some 0 }

def repository : TypeDecl :=
  { unit := core, space := "Core", name := "IRepository", kind := .interfaceKind, row := some 1 }

def repositoryBase : TypeDecl :=
  { unit := core, space := "Core", name := "RepositoryBase", capabilities := [repository],
    modifiers := [.abstractType] }

def clock : TypeDecl :=
  { unit := core, space := "Core", name := "SystemClock", annotations := [service] }

def userRepository : TypeDecl :=
  { unit := services, space := "Services.Data", name := "UserRepository",
    base := some repositoryBase, annotations := [service] }

def mailerOptions : TypeDecl :=
  { unit := services, space := "Services", name := "Options", outer := ["Mailer"],
    annotations := [service] }

def mailer : TypeDecl :=
  { unit := services, space := "Services", name := "Mailer",
    annotations := [{ name := "Core.Service" }], nested := [mailerOptions] }

def controller : TypeDecl :=
  { unit := app, space := "App", name := "HomeController",
    annotations := [{ service with arguments := ["Scoped"] }] }

def orderRepository : TypeDecl :=
  { unit := app, space := "App.Data", name := "OrderRepository", capabilities := [repository] }

def hiddenService : TypeDecl :=
  { unit := closed, space := "Closed", name := "HiddenService", annotations := [service],
    capabilities := [repository] }

/-- The services refer back to the application, and the closed library has not opted in. -/
def layered : Sample where
  program := .ofUnits
    [.ofTypes app [controller, orderRepository] [services, closed],
     .ofTypes services [userRepository, mailer] [core, app] [optIn],
     .ofTypes core [serviceAttribute, repository, repositoryBase, clock] [] [optIn],
     .ofTypes closed [hiddenService]]
  table := [serviceAttribute, repository]

def left : UnitKey := ⟨"A", ""⟩

def right : UnitKey := ⟨"B", ""⟩

def cycle : Sample where
  program := .ofUnits
    [.ofTypes left [{ unit := left, space := "A", name := "Alpha" }] [right] [optIn],
     .ofTypes right [{ unit := right, space := "B", name := "Beta" }] [left] [optIn]]

/-- A unit of a graph; dependencies are places in the graph. -/
structure Node where
  isOpen : Bool
  dependencies : List Nat
  typeCount : Nat
  deriving DecidableEq, Repr

def nodeId (i : Nat) : UnitKey := ⟨"U" ++ toString i, "1.0.0"⟩

/-- Dependencies on a place outside the graph of `size` nodes are dropped. -/
def Node.toUnit (size : Nat) (node : Node) (i : Nat) : CodeUnit :=
  let declare (j : Nat) : TypeDecl :=
    { unit := nodeId i, space := (nodeId i).name, name := "T" ++ toString j }
  .ofTypes (nodeId i) ((List.range node.typeCount).map declare)
    ((node.dependencies.filter (· < size)).map nodeId) (if node.isOpen then [optIn] else [])

def graph (nodes : List Node) : Sample where
  program := .ofUnits (nodes.mapIdx fun i node => node.toUnit nodes.length i)

/-- Open units in a row, each of which refers to the one behind it. -/
def chain (length typeCount : Nat) : Sample :=
  graph ((List.range length).map fun i => ⟨true, [i + 1], typeCount⟩)

end Sample

end TypeSurvey
