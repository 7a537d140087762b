import GrammarForm.Catalogue.Reader
import GrammarForm.Catalogue.Shipped.General
import GrammarForm.Catalogue.Shipped.Random
import GrammarForm.Catalogue.Shipped.Initialization
import GrammarForm.Catalogue.Shipped.Function
import GrammarForm.Catalogue.Shipped.Movement
import GrammarForm.Catalogue.Shipped.Statistics

/-!
# The shipped catalogue

One catalogue is part of the program: the commands of the configuration file of a particle swarm
optimizer.

## Main definitions

* `Shipped.records`, `Shipped.sections` : its symbols and its layout.
* `Shipped.catalogue` : the catalogue itself.
-/

namespace GrammarForm

namespace Shipped

/-- The symbols of the shipped catalogue. -/
def records : List SymbolRecord :=
  generalRecords ++
    randomRecords ++
    initializationRecords ++
    functionRecords ++
    movementRecords ++
    statisticsRecords

/-- The layout of the shipped catalogue. -/
def sections : List LayoutSection :=
  [ { title := "Objective Function Specification"
      commands := [
        { name := "function" },
        { name := "dimensions", inline := true },
        { name := "functionbounds", repeatLimit := some (-1) }] },
    { title := "Swarm Parameters and Swarm Configuration"
      commands := [
        { name := "particles", inline := true },
        { name := "steps", inline := true },
        { name := "parameterChi", inline := true },
        { name := "parameterCoefficientLocalAttractor", inline := true },
        { name := "parameterCoefficientGlobalAttractor", inline := true },
        { name := "initializeVelocity", inline := true },
        { name := "initializationinformation", repeatLimit := some (-1) },
        { name := "neighborhood" },
        { name := "positionAndVelocityUpdater" },
        { name := "boundhandling" },
        { name := "functionBehaviorOutsideOfBounds" },
        { name := "velocityAdjustment" },
        { name := "updateGlobalAttractor", inline := true },
        { name := "srand" }] },
    { title := "Precision Configuration"
      commands := [
        { name := "initialprecision", inline := true },
        { name := "precision", inline := true },
        { name := "checkprecision", inline := true },
        { name := "checkprecisionprobability", inline := true },
        { name := "outputPrecision" }] },
    { title := "Specification which Statistics are Written to Data Files"
      commands := [
        { name := "showStatistics", repeatLimit := some (-1) },
        { name := "showStatistic", repeatLimit := some (-1) },
        { name := "showNamedStatistic", repeatLimit := some (-1) },
        { name := "debugswarm", repeatLimit := some 1,
          dependents := ["debugswarmShowGlobalAttractorTrajectory",
            "debugswarmImageGenerationFrequency", "debugswarmShowGlobalAttractor",
            "debugswarmXresolution", "debugswarmYresolution", "debugswarmGnuplotTerminal",
            "debugswarmOutput"] }]
      extensions := [("<reduce type>", [["objectiveFunctionEvaluation"]])] },
    { title := "Miscellaneous Options"
      commands := [
        { name := "includeSystemTimeInFilename", inline := true },
        { name := "fileprefix", repeatLimit := some 1 },
        { name := "runcheck", repeatLimit := some 1 },
        { name := "preservebackup", repeatLimit := some (-1) }] } ]

/-- The name of the shipped catalogue. -/
def name : String := "hippso"

/-- The title of the shipped catalogue. -/
def title : String := "HiPPSO Configuration File Generator"

/-- The description of the shipped catalogue. -/
def description : String :=
  "Builds configuration files for the high precision particle swarm optimization program."

/-- The shipped catalogue, read from a source. -/
def catalogue (source : Option FilePath) : Except LoadError Catalogue := do
  let grammar ← Catalogue.readGrammar records
  Catalogue.checked
    { name := .string name
      title := .string title
      description := .string description
      grammar
      sections
      source }

end Shipped

end GrammarForm
