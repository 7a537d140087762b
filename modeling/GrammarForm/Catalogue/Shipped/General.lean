import GrammarForm.Grammar.Symbol

/-!
# The shipped catalogue: general parameters and precision

The symbol records of the shipped catalogue that concern general parameters and precision.
-/

namespace GrammarForm.Shipped

/-- The records that concern general parameters and precision. -/
def generalRecords : List SymbolRecord :=
  [ { name := "<boolean value>"
      productions := [["true"], ["false"]] },
    { name := "parameterChi"
      aliasOf := some "<float value>"
      defaultValue := some (.text "0.72984") },
    { name := "parameterCoefficientLocalAttractor"
      aliasOf := some "<float value>"
      defaultValue := some (.text "1.496172") },
    { name := "parameterCoefficientGlobalAttractor"
      aliasOf := some "<float value>"
      defaultValue := some (.text "1.496172")
      explanation := "Set parameters for velocity update in PSO. v[i] = (chi) * v[i] + " ++
        "c_\x7bloc\x7d * r_1 * (l[i] - x[i]) + c_\x7bglob\x7d * r_2 * (g[i] - x[i]) for each " ++
        "dimension i separately, where v = velocity, c_\x7bloc\x7d = coefficient local " ++
        "attractor, c_\x7bglob\x7d = coefficient global attractor, r_1 and r_2 random values " ++
        "in [0,1], l = local attractor, x = position, g global attractor. A standard " ++
        "combination of parameters is chi=0.72984, c_\x7bloc\x7d=c_\x7bglob\x7d=1.496172." },
    { name := "includeSystemTimeInFilename"
      aliasOf := some "<boolean value>"
      defaultValue := some (.alternative ["false"])
      explanation := "Set whether the current date and time should be included in the prefix " ++
        "of all file names. WARNING: There is no check whether the respective prefix is " ++
        "already in use. If a prefix is used repeatedly in the same folder, then the program " ++
        "may produce wrong / useless data and may also destroy data of other executions of " ++
        "this program. Therefore it is highly recommended to set the " ++
        "\"includeSystemTimeInFilename\" value to true in such cases, because this " ++
        "automatically produces different prefixes for each execution, which has not started " ++
        "at the same second." },
    { name := "updateGlobalAttractor"
      aliasOf := some "<updateGlobalAttractor>"
      defaultValue := some (.alternative ["eachParticle"])
      explanation := "The option eachIteration means that the global attractor is updated " ++
        "after each iteration. Particles with higher index do not recognize improvements of " ++
        "earlier particles in the same iteration. The option eachParticle means that the " ++
        "global attractor is updated immediately after each particle has found a new position." },
    { name := "<updateGlobalAttractor>"
      productions := [["eachIteration"], ["eachParticle"]] },
    { name := "initialprecision"
      aliasOf := some "<positive integer value>"
      defaultValue := some (.text "128")
      explanation := "Set initial precision (in bits) of the used floating point data type " ++
        "(Accepted values are positive integers)." },
    { name := "precision"
      aliasOf := some "<positive integer value>"
      defaultValue := some (.text "128")
      explanation := "Set precision (in bits) of the used floating point data type (Accepted " ++
        "values are positive integers). According to this value checks are performed to " ++
        "ensure that calculations are reliable even if less bits (according to the specified " ++
        "number here) are used. If this is not the case then the precision will be increased." },
    { name := "checkprecision"
      aliasOf := some "<checkprecision>"
      defaultValue := some (.alternative ["allExceptStatistics"])
      explanation := "Set when the precision is checked." },
    { name := "<checkprecision>"
      productions := [["all"], ["allExceptStatistics"], ["never"]]
      alternatives := [
        ("all", "With this option precision checks are performed always."),
        ("allExceptStatistics",
          "With this option precision checks are performed always except on statistical " ++
          "calculations. This is useful if runs should be reproducible not depending on " ++
          "whether statistics are done or not."),
        ("never", "With this option precision checks are performed never.")] },
    { name := "checkprecisionprobability"
      aliasOf := some "<ratio>"
      defaultValue := some (.text "1.0")
      explanation := "Set the ratio how often the precision is checked expectedly (respecting " ++
        "the choice fo \"checkprecision\" command). A ratio of 0.0 means that the precision " ++
        "is never checked. A ratio of 1.0 means that the precision is always checked if it is " ++
        "triggered by \"checkprecision\" option. A ratio of 0.5 means that for 50% of the " ++
        "calculations the precision is checked if it is triggered by \"checkprecision\" " ++
        "option." },
    { name := "<ratio>"
      aliasOf := some "<float value>" },
    { name := "particles"
      aliasOf := some "<positive integer value>"
      defaultValue := some (.text "5")
      explanation := "Set the number of particles." },
    { name := "dimensions"
      aliasOf := some "<positive integer value>"
      defaultValue := some (.text "8")
      explanation := "Set the number of dimensions of the search space." },
    { name := "steps"
      aliasOf := some "<positive integer value>"
      defaultValue := some (.text "1000")
      explanation := "Set the number of steps (iterations)." } ]

end GrammarForm.Shipped
