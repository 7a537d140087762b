import GrammarForm.Grammar.Symbol

/-!
# The shipped catalogue: statistics and output

The symbol records of the shipped catalogue that concern statistics and output.
-/

namespace GrammarForm.Shipped

/-- The records that concern statistics and output. -/
def statisticsRecords : List SymbolRecord :=
  [ { name := "showStatistics"
      productions := [["<start step>", "<end step>", "<interval>"]]
      repeatExplanation := "Set at which iterations the statistics should be stored. If more " ++
        "such times are specified all will be regarded. Statistics will be stored for all " ++
        "iterations t such that <start step> <= t <= <end step> and t = <start step> + i * " ++
        "<interval> for some integer i. For example: The commands \"showStatistics 100 " ++
        "1222111222 100\" and \"showStatistics 10000 10100 1\" together will show statistics " ++
        "each 100 steps (for a very long period) AND each step between 10000 and 10100." },
    { name := "<interval>"
      aliasOf := some "<positive integer value>"
      defaultValue := some (.text "10") },
    { name := "<start step>"
      aliasOf := some "<nonnegative integer value>"
      defaultValue := some (.text "0") },
    { name := "<end step>"
      aliasOf := some "<nonnegative integer value>"
      defaultValue := some (.text "1000") },
    { name := "showStatistic"
      productions := [["<statistic type>"]]
      repeatExplanation := "This command can specify statistics that can be stored to analyze " ++
        "the PSO. Examples are the position of particles, function values and many more." },
    { name := "showNamedStatistic"
      productions := [["<statistic name>", "<statistic type>"]]
      repeatExplanation := "This command can specify statistics that can be stored to analyze " ++
        "the PSO. Examples are the position of particles, function values and many more. " ++
        "Additionally a name of this statistic can be defined. This name has to be unique and " ++
        "can contain characters A-Z, a-z and 0-9. The name is used as suffix for the file " ++
        "containing the data of this statistic." },
    { name := "<statistic name>"
      aliasOf := some "<alphanumeric value>"
      defaultValue := some (.text "statisticName")
      explanation := "You can specify the name of the statistic, which specifies the final " ++
        "part of the respective filename. Please do not use any whitespace characters. " ++
        "Furthermore only the letters A-Z, a-z and 0-9 are allowed." },
    { name := "<statistic type>"
      productions := [["<direct statistic type>"], ["<operation>", "<statistic type>"],
        ["<reduce operator>", "<specific statistic type>"],
        ["combine", "<combination>", "<statistic type>", "<statistic type>"]]
      explanation := "A <statistic type> is some specification of an evaluation which can be " ++
        "executed at the specified iterations (specified by command \"showStatistics\"). In " ++
        "general it produces at each evaluation a list of numbers which is written to the " ++
        "respective statistics file."
      alternatives := [
        ("<direct statistic type>",
          "A <direct statistic type> describes a specific statistic directly. Examples are " ++
          "the global best position or the objective function value at the global best " ++
          "position."),
        ("<operation> <statistic type>",
          "An <operation> is applied to the result delivered by the connected <statistic " ++
          "type> object. Examples for operations are the logarithm, the square root or " ++
          "trigonometric functions."),
        ("<reduce operator> <specific statistic type>",
          "A <specific statistic type> produces a two-dimensional statistic (There is a value " ++
          "for each particle and dimension - An example would be the position of all " ++
          "particles). The reduce operator reduces the data received for each particle and " ++
          "dimension to some list of numbers. Some kind of aggregation can be applied over " ++
          "the particles or over the dimensions (Examples are the sum or the choice of a " ++
          "specific particle/dimension)."),
        ("combine <combination> <statistic type> <statistic type>",
          "The combine command \"combine <combination> <statistic type> <statistic type>\" " ++
          "can be used to evaluate complex statistics. You can use add (+), subtract (-), " ++
          "multiply (*), divide (/), minimum (min) and maximum (max) as possible combinations " ++
          "to combine various statistics. Each combination is executed element wise. The " ++
          "option is described by a prefix notation for the evaluation which uniquely " ++
          "specifies the order of execution. WARNING: Undefined values can not be compared " ++
          "(e.g. for minimum). Undefined values can appear for example if there is a division " ++
          "by zero.")] },
    { name := "<direct statistic type>"
      productions := [["globalBestPosition"], ["globalBestPositionDistanceTo1DOptimum"],
        ["globalBestPositionFunctionEvaluation"], ["localAttractorUpdates"],
        ["globalAttractorUpdates"], ["precision"],
        ["constant", "<dimensions>", "<constant value>"]]
      explanation := "A <direct statistic type> describes a specific statistic directly. " ++
        "Examples are the global best position or the objective function value at the global " ++
        "best position."
      alternatives := [
        ("globalBestPosition",
          "\"globalBestPosition\" represents the best position found so far by the swarm."),
        ("globalBestPositionDistanceTo1DOptimum",
          "\"globalBestPositionDistanceTo1DOptimum\" represents the distance of the global " ++
          "best position to the nearest local optimum if only a single dimension is variable."),
        ("globalBestPositionFunctionEvaluation",
          "\"globalBestPositionFunctionEvaluation\" represents the function value of the " ++
          "specified objective function where the input position is the best position found " ++
          "so far."),
        ("localAttractorUpdates",
          "\"localAttractorUpdates\" counts for each particle the number of changes of its " ++
          "local attractor since the beginning."),
        ("globalAttractorUpdates",
          "\"globalAttractorUpdates\" counts for each particle the number of changes of a " ++
          "global attractor caused by that particle since the beginning."),
        ("precision",
          "\"precision\" represents the current precision in bits, which is used for all " ++
          "calculations."),
        ("constant <dimensions> <constant value>",
          "\"constant <dimensions> <constant value>\" represents a statistic, which always " ++
          "evaluates to the same specified value. The number of dimensions needs to be " ++
          "specified, because the generated vector needs to have the correct number of " ++
          "entries if it should be combined with other statistics.")] },
    { name := "<dimensions>"
      aliasOf := some "<positive integer value>"
      defaultValue := some (.text "10") },
    { name := "<reduce operator>"
      productions := [["reduce", "particle", "<reduce type>"],
        ["reduce", "dimension", "<reduce type>"]]
      explanation := "The reduce operator reduces the data received for each particle and " ++
        "dimension to some list of numbers. Some kind of aggregation can be applied over the " ++
        "particles or over the dimensions (Examples are the sum or the choice of a specific " ++
        "particle/dimension)."
      alternatives := [
        ("reduce particle <reduce type>",
          "\"reduce particle <reduce type>\" reduces the data over the particles and produces " ++
          "one value for each dimension. (Example: Let the number of particles be 2 and the " ++
          "number of dimensions be 3. Let the position of particle 0 be pos(0)=(1,2,3) and " ++
          "let the position of particle 1 be pos(1)=(5,6,7) then the following statistics can " ++
          "be applied: \"reduce particle specific 0 position\" produces the data (1,2,3) and " ++
          "\"reduce particle specific 1 position\" produces the data (5,6,7))."),
        ("reduce dimension <reduce type>",
          "\"reduce dimension <reduce type>\" reduces the data over the dimensions and " ++
          "produces one value for each particle. (Example: Let the number of particles be 2 " ++
          "and the number of dimensions be 3. Let the position of particle 0 be " ++
          "pos(0)=(1,2,3) and let the position of particle 1 be pos(1)=(5,6,7) then the " ++
          "following statistics can be applied: \"reduce dimension specific 0 position\" " ++
          "produces the data (1,5), \"reduce dimension specific 1 position\" produces the " ++
          "data (2,6) and \"reduce dimension specific 2 position\" produces the data (3,7)).")] },
    { name := "<specific statistic type>"
      productions := [["<direct specific statistic type>"],
        ["<operation>", "<specific statistic type>"],
        ["combine", "<combination>", "<specific statistic type>", "<specific statistic type>"]]
      explanation := "A <specific statistic type> produces a two-dimensional statistic (There " ++
        "is a value for each particle and dimension - An example would be the position of all " ++
        "particles). It needs to be reduced in some way to receive a list of numbers, which " ++
        "can then be displayed in a data file."
      alternatives := [
        ("<direct specific statistic type>",
          "A \"<direct specific statistic type>\" describes a specific \"<specific statistic " ++
          "type>\" directly. Examples are the positions or the velocities of all particles."),
        ("<operation> <specific statistic type>",
          "An <operation> is applied to the result delivered by the connected <specific " ++
          "statistic type> object. Examples for operations are the logarithm, the square root " ++
          "or trigonometric functions."),
        ("combine <combination> <specific statistic type> <specific statistic type>",
          "The combine command \"combine <combination> <specific statistic type> <specific " ++
          "statistic type>\" can be used to evaluate complex statistics. You can use add (+), " ++
          "subtract (-), multiply (*), divide (/), minimum (min) and maximum (max) as " ++
          "possible combinations to combine various statistics. Each combination is executed " ++
          "element wise. The option is described by a prefix notation for the evaluation " ++
          "which uniquely specifies the order of execution. WARNING: Undefined values can not " ++
          "be compared (e.g. for minimum). Undefined values can appear for example if there " ++
          "is a division by zero.")] },
    { name := "<direct specific statistic type>"
      productions := [["position"], ["velocity"], ["localAttractor"], ["globalAttractor"],
        ["functionDifference"], ["absVelocityPlusDistToGlobalAttractor", "<scale>"],
        ["sqrtAbsVelocityPlusSqrtDistToGlobalAttractor", "<scale>"],
        ["constant", "<constant value>"], ["deltaUpdateCounters"]]
      explanation := "A \"<direct specific statistic type>\" describes a specific \"<specific " ++
        "statistic type>\" directly. Examples are the positions or the velocities of all " ++
        "particles."
      alternatives := [
        ("position", "\"position\" represents the positions for each particle."),
        ("velocity", "\"velocity\" represents the velocities for each particle."),
        ("localAttractor",
          "\"localAttractor\" represents the local attractor for each particle."),
        ("globalAttractor",
          "\"globalAttractor\" represents the global attractor for each particle. Please note " ++
          "that they can be different depending on the neighborhood topology."),
        ("functionDifference",
          "\"functionDifference\" means abs(f(x)-f(x')), where x is the position and x'[dim] " ++
          "= x[dim] + v[dim] for the measured dimension and x'[dim] = x[dim] for all other " ++
          "dimensions, where v is the velocity."),
        ("absVelocityPlusDistToGlobalAttractor <scale>",
          "\"absVelocityPlusDistToGlobalAttractor <scale>\" means <scale> * abs(v[dim]) + " ++
          "abs(x[dim]-g[dim]), where x is the position, v is the velocity, g is the global " ++
          "attractor and dim is the measured dimension."),
        ("sqrtAbsVelocityPlusSqrtDistToGlobalAttractor <scale>",
          "\"sqrtAbsVelocityPlusSqrtDistToGlobalAttractor <scale>\" means <scale> * sqrt( " ++
          "abs( v[dim] ) ) + sqrt( abs( x[dim] - g[dim] ) ), where x is the position, v is " ++
          "the velocity, g is the global attractor and dim is the measured dimension."),
        ("constant <constant value>",
          "\"constant <constant value>\" represents a statistic, which always evaluates to " ++
          "the same specified value. This specific statistic can be combined with other " ++
          "specific statistics. It has a value for each particle and each dimension."),
        ("deltaUpdateCounters",
          "\"deltaUpdateCounters\" represents a statistic, which counts the number of delta " ++
          "updates for each particle and dimension. For obvious reasons if the position and " ++
          "velocity updater is not a delta updater (delta or deltatcs) then this statistic " ++
          "evaluates to zero.")] },
    { name := "outputPrecision"
      productions := [["<output precision in digits>"], ["-1"]]
      defaultValue := some (.alternative ["-1"])
      explanation := "Set the precision (in digits) of numbers in the produced output (in " ++
        "general for all floating point numbers in statistical files). If the output " ++
        "precision is set to -1 then the full precision of the internal floating point values " ++
        "are displayed." },
    { name := "<output precision in digits>"
      aliasOf := some "<positive integer value>"
      defaultValue := some (.text "10") },
    { name := "runcheck"
      productions := [["<runcheck configuration file>"]]
      defaultValue := some (.alternative ["<runcheck configuration file>"])
      repeatExplanation := "Set the file name for configuration file which specifies when / " ++
        "whether the program is allowed to run. The program parses this file repeatedly. " ++
        "Therefore changes are recognized on runtime. If the program recognizes that it is " ++
        "not allowed to run then it stores its current data and terminates normally ensuring " ++
        "that no data loss appears. This can be used to terminate current PSO runs and " ++
        "restart them later. See sample file runcheck.conf for available possibilities. " ++
        "Allowed characters are 0-9, a-z, A-Z and the four characters \"./_-\". Please note " ++
        "that this command is optional." },
    { name := "<runcheck configuration file>"
      aliasOf := some "<file name>"
      defaultValue := some (.text "guideline_configuration_files/runcheck.conf") },
    { name := "preservebackup"
      aliasOf := some "<iteration index>"
      repeatExplanation := "Set special iteration index/step, where a backup of the PSO " ++
        "should be preserved. For example use \"preservebackup 0\" to receive the backup " ++
        "directly after initialization." },
    { name := "<iteration index>"
      aliasOf := some "<nonnegative integer value>"
      defaultValue := some (.text "0") },
    { name := "debugswarm"
      productions := [[]]
      explanation := "Please note that this option has no parameter."
      repeatExplanation := "For debugging and observation of the swarm this option can be " ++
        "used. This command activates the <debugswarm>-mode (generation of pictures which " ++
        "visualize the current state of the swarm and further output on terminal). The " ++
        "program generates a folder according to the current file prefix. Execute the small " ++
        "script in this folder to generate the image files for each visualized step. The " ++
        "prefix of the files are the referencing steps. WARNING 1: \"gnuplot\" has to be " ++
        "installed to create pictures by the created script. WARNING 2: It might be possible " ++
        "that you can not easily kill the PSO_program task with Ctrl+C in the terminal. You " ++
        "need to kill the process either by your specified runcheck file or by typing " ++
        "\"killall PSO_program\" in another terminal (this variant kills ALL(!!) instances of " ++
        "PSO_program) or you can use the programs \"top\" or \"htop\" to kill the respective " ++
        "process. WARNING 3: It might be possible that this option causes large memory usage " ++
        "on hard disk." },
    { name := "debugswarmShowGlobalAttractorTrajectory"
      aliasOf := some "<nonnegative integer value>"
      defaultValue := some (.text "20")
      explanation := "This command specifies how many of the recent global best found " ++
        "positions will be visualized in the generated images as footprints." },
    { name := "debugswarmImageGenerationFrequency"
      aliasOf := some "<nonnegative integer value>"
      defaultValue := some (.text "10")
      explanation := "This command specifies how often the image will be generated. If the " ++
        "specified value is zero then no images will be generated. If the specified value " ++
        "\"n\" is positive each n-th iteration/step an image will be generated." },
    { name := "debugswarmShowGlobalAttractor"
      aliasOf := some "<boolean value>"
      defaultValue := some (.alternative ["true"])
      explanation := "This command specifies whether the value and position of the current " ++
        "global best found position should be displayed on the terminal at each iteration." },
    { name := "debugswarmXresolution"
      aliasOf := some "<positive integer value>"
      defaultValue := some (.text "2560")
      explanation := "The following command specifies the resolution of the generated images. " ++
        "Please specify the width of the generated image in pixels." },
    { name := "debugswarmYresolution"
      aliasOf := some "<positive integer value>"
      defaultValue := some (.text "1440")
      explanation := "The following command specifies the resolution of the generated images. " ++
        "Please specify the height of the generated image in pixels." },
    { name := "debugswarmGnuplotTerminal"
      aliasOf := some "<alphanumeric value>"
      defaultValue := some (.text "svg")
      explanation := "This command specifies which terminal should be used in gnuplot. The " ++
        "available terminals depend on your system. Usually available are terminals such as " ++
        "\"svg\", \"png\", \"pngcairo\" and many more." },
    { name := "debugswarmOutput"
      aliasOf := some "<alphanumeric value>"
      defaultValue := some (.text "svg")
      explanation := "This command specifies the extension of the generated image file. The " ++
        "extension should match to the output file generated by the chosen gnuplot terminal." } ]

end GrammarForm.Shipped
