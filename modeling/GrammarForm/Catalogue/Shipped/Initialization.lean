import GrammarForm.Grammar.Symbol

/-!
# The shipped catalogue: initial positions and neighbourhoods

The symbol records of the shipped catalogue that concern initial positions and neighbourhoods.
-/

namespace GrammarForm.Shipped

/-- The records that concern initial positions and neighbourhoods. -/
def initializationRecords : List SymbolRecord :=
  [ { name := "initializationinformation"
      productions := 
        [["<position or velocity>", "<affected particles and dimensions>", "<initialization type>"]]
      repeatExplanation := "Set how positions and velocities are initialized. Please note: " ++
        "The commands which influences the velocity initialization are ignored if velocity " ++
        "initialization is not random. For example if the command \"initializeVelocity " ++
        "halfDiff\" or \"initializeVelocity zero\" is active then the command " ++
        "\"initializationinformation\" with subcommand \"velocity\" has no effect. Particles " ++
        "and dimensions are 0-indexed, the ids of the particles are in the range from 0 to " ++
        "one less than the respective number. Particle and dimension ranges are inclusive " ++
        "their bounds." },
    { name := "<position or velocity>"
      productions := [["position"], ["velocity"]]
      explanation := "This option specifies whether the command influences the initialization " ++
        "of the position or the velocity." },
    { name := "<affected particles and dimensions>"
      productions := 
        [["<first particle id>", "<last particle id>", "<first dimension id>", "<last dimension id>"]]
      explanation := "This option specifies which particles and which dimensions are " ++
        "affected. The specified indices should be integers. The indices are treated zero " ++
        "indexed and inclusive specified index bounds." },
    { name := "<first particle id>"
      aliasOf := some "<nonnegative integer value>"
      defaultValue := some (.text "0") },
    { name := "<last particle id>"
      aliasOf := some "<nonnegative integer value>"
      defaultValue := some (.text "0") },
    { name := "<first dimension id>"
      aliasOf := some "<nonnegative integer value>"
      defaultValue := some (.text "0") },
    { name := "<last dimension id>"
      aliasOf := some "<nonnegative integer value>"
      defaultValue := some (.text "0") },
    { name := "<initialization type>"
      productions := [["bounds", "<lower bound>", "<upper bound>"],
        ["centerandrange", "<center coordinate>", "<range>"],
        ["randomcenterandrange", "<center coordinate lower bound>", "<center coordinate upper bound>", "<range>"],
        ["scale", "<scale>"], ["powerscale", "<power scale>"]]
      alternatives := [
        ("bounds <lower bound> <upper bound>",
          "This option specifies that the coordinates of all particles and dimensions in the " ++
          "specified range are randomly initialized in the range from <lower bound> to <upper " ++
          "bound>. <lower bound> and <upper bound> can be floating point values."),
        ("centerandrange <center coordinate> <range>",
          "This option specifies that the coordinates of all particles and dimensions in the " ++
          "specified range are randomly initialized in the interval from (<center coordinate> " ++
          "- <range>) to (<center coordinate> + <range>). <center coordinate> and <range> can " ++
          "be floating point values."),
        ("randomcenterandrange <center coordinate lower bound> <center coordinate upper bound> <range>",
          "This option specifies that the coordinates of all particles and dimensions in the " ++
          "specified range are randomly initialized in the interval from (x - <range>) to (x " ++
          "+ <range>), where x is a random value in the interval <lower bound> to <upper " ++
          "bound> and x is sampled for each dimension independently."),
        ("scale <scale>",
          "This option specifies that the length of the random interval of all particles and " ++
          "dimensions in the specified range are scaled by a factor of <scale>. The center of " ++
          "the interval stays constant. <scale> can be a floating point value."),
        ("powerscale <power scale>",
          "This option specifies that the length of the random interval of all particles and " ++
          "dimensions in the specified range are scaled by a factor of 2^(<power scale>). The " ++
          "center of the interval stays constant. <power scale> needs to be an integer " ++
          "(negative or positive).")] },
    { name := "<lower bound>"
      aliasOf := some "<float value>"
      defaultValue := some (.text "-1.0") },
    { name := "<upper bound>"
      aliasOf := some "<float value>"
      defaultValue := some (.text "1.0") },
    { name := "<center coordinate>"
      aliasOf := some "<float value>"
      defaultValue := some (.text "2.0") },
    { name := "<range>"
      aliasOf := some "<float value>"
      defaultValue := some (.text "2.0") },
    { name := "<center coordinate lower bound>"
      aliasOf := some "<float value>"
      defaultValue := some (.text "3.0") },
    { name := "<center coordinate upper bound>"
      aliasOf := some "<float value>"
      defaultValue := some (.text "4.0") },
    { name := "<scale>"
      aliasOf := some "<float value>"
      defaultValue := some (.text "1e-3") },
    { name := "<power scale>"
      aliasOf := some "<integer value>"
      defaultValue := some (.text "-13") },
    { name := "neighborhood"
      productions := [["gBest"], ["wheel"], ["lBest", "<2 times k>"], ["ring"],
        ["grid", "<number of rows>", "<number of columns>"]]
      defaultValue := some (.alternative ["gBest"])
      explanation := "This option sets the neighborhood topology. The neighborhood topology " ++
        "specifies which particles are known by other particles, i.e., if particle i knows " ++
        "particle j then the best position found by particle j is considered for the choice " ++
        "of global attractor for particle i."
      alternatives := [
        ("gBest",
          "All particles know each other. There is a single common global attractor for all " ++
          "particles."),
        ("wheel",
          "All particles know the first particle and the first particle knows all particles. " ++
          "The global attractor of the first particle is the best position of all particles. " ++
          "The global attractor of all other particles is the best position of itself and the " ++
          "best position of the first particle."),
        ("lBest <2 times k>",
          "Each particle knows the next and the previous <2 times k> / 2 particles. For " ++
          "example \"neighborhood lBest 10\" specifies that each particle knows the next and " ++
          "the previous 5 particles."),
        ("ring",
          "Each particle knows the next and the previous particle. (equivalent to \"lBest 2\")"),
        ("grid <number of rows> <number of columns>",
          "The particles are assigned a position in a <number of rows> times <number of " ++
          "columns> grid. Each particle knows the four particles next to him, i.e., the " ++
          "particle above, below, left and right to him in a cyclical sense. Please note: " ++
          "<number of rows> multiplied by <number of columns> must be equal to the number of " ++
          "particles! (for example if there are 36 particles then one option is: " ++
          "\"neighborhood grid 4 9\")")] },
    { name := "<2 times k>"
      aliasOf := some "<positive integer value>"
      defaultValue := some (.text "2") },
    { name := "<number of rows>"
      aliasOf := some "<positive integer value>"
      defaultValue := some (.text "2") },
    { name := "<number of columns>"
      aliasOf := some "<positive integer value>"
      defaultValue := some (.text "2") } ]

end GrammarForm.Shipped
