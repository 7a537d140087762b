import GrammarForm.Grammar.Symbol

/-!
# The shipped catalogue: random numbers and file names

The symbol records of the shipped catalogue that concern random numbers and file names.
-/

namespace GrammarForm.Shipped

/-- The records that concern random numbers and file names. -/
def randomRecords : List SymbolRecord :=
  [ { name := "srand"
      aliasOf := some "<rng description>"
      defaultValue := some (.alternative ["<seed>"])
      explanation := "Specify the random number generator (RNG) which should be used. " ++
        "Specifying only the seed uses the standard linear congruence random number generator." },
    { name := "<rng description>"
      productions := [["<seed>"], ["linearCongruenceRNG", "<seed>", "<lcrng>"]]
      defaultValue := some (.alternative ["<seed>"])
      alternatives := [
        ("<seed>",
          "This option uses a standard linear congruence RNG with multiplier " ++
          "1571204578482947281, additive term 12345678901234567 and modulus " ++
          "9223372036854775808."),
        ("linearCongruenceRNG <seed> <lcrng>",
          "This option uses a linear congruence RNG with variable multiplier, additive term " ++
          "and modulus.")] },
    { name := "<seed>"
      aliasOf := some "<nonnegative integer value>"
      defaultValue := some (.text "42") },
    { name := "<lcrng>"
      productions := [["standard", "<floating point generation 1>"],
        ["mod2p63", "<multiplier>", "<adder>", "<floating point generation 1>"],
        ["specific", "<multiplier>", "<adder>", "<modulus>", "<floating point generation 2>"]]
      alternatives := [
        ("standard <floating point generation 1>",
          "This option uses a standard linear congruence RNG with multiplier " ++
          "1571204578482947281, additive term 12345678901234567 and modulus " ++
          "9223372036854775808."),
        ("mod2p63 <multiplier> <adder> <floating point generation 1>",
          "This option uses a standard linear congruence RNG with modulus " ++
          "9223372036854775808=2^\x7b63\x7d and variable multiplier and additive term."),
        ("specific <multiplier> <adder> <modulus> <floating point generation 2>",
          "This option uses a standard linear congruence RNG with variable multiplier, " ++
          "additive term and modulus.")] },
    { name := "<multiplier>"
      aliasOf := some "<nonnegative integer value>"
      defaultValue := some (.text "1571204578482947281") },
    { name := "<adder>"
      aliasOf := some "<nonnegative integer value>"
      defaultValue := some (.text "12345678901234567") },
    { name := "<modulus>"
      aliasOf := some "<positive integer value>"
      defaultValue := some (.text "9223372036854775808") },
    { name := "<used bits>"
      aliasOf := some "<positive integer value>"
      defaultValue := some (.text "2") },
    { name := "<floating point generation 1>"
      productions := [["fast"], ["intense", "<used bits>"]]
      alternatives := [
        ("fast",
          "If floating point generation is specified as fast then for floating point value " ++
          "generation a random double value is converted to a highly precise floating point " ++
          "value."),
        ("intense <used bits>",
          "If floating point generation is specified as intense then the result is " ++
          "sum_\x7bi=1..t\x7d (highest <used bits> bits of a random integer value) / ( 2^( i " ++
          "* <used bits> ) ), where t is as large such that all bits of the random highly " ++
          "precise floating point value are randomly generated.")] },
    { name := "<floating point generation 2>"
      productions := [["fast"], ["intense"]]
      alternatives := [
        ("fast",
          "If floating point generation is specified as fast then for floating point value " ++
          "generation a random double value is converted to a highly precise floating point " ++
          "value."),
        ("intense",
          "If floating point generation is specified as intense then the result is " ++
          "sum_\x7bi=1..t\x7d (random 64 bit integer value) / (<modulus>^i), where t is as " ++
          "large such that all bits of the random highly precise floating point value are " ++
          "randomly generated.")] },
    { name := "initializeVelocity"
      productions := [["zero"], ["halfDiff"], ["random"]]
      defaultValue := some (.alternative ["zero"])
      explanation := "Set how the velocity of each particle should be initialized."
      alternatives := [
        ("zero", "This option initializes all velocity entries to zero."),
        ("halfDiff",
          "This option samples a second position for each particle, subtracts the actual " ++
          "position and multiplies the result by 0.5."),
        ("random",
          "Velocities are initialized similar to the position. See command " ++
          "initializationinformation in this case")] },
    { name := "fileprefix"
      aliasOf := some "<alphanumeric value>"
      defaultValue := some (.text "testrun001")
      repeatExplanation := "Set file prefixes of generated data. If none is specified then an " ++
        "automatic string is generated by specified values in this configuration file. Only " ++
        "alphanumeric characters are allowed here." } ]

end GrammarForm.Shipped
