import GrammarForm.Grammar.Symbol

/-!
# The shipped catalogue: objective functions

The symbol records of the shipped catalogue that concern objective functions.
-/

namespace GrammarForm.Shipped

/-- The records that concern objective functions. -/
def functionRecords : List SymbolRecord :=
  [ { name := "function"
      aliasOf := some "<function type>"
      explanation := "This options specifies the objective function which has to be minimized " ++
        "by the PSO. A <function type> is some specification of an evaluation which can be " ++
        "executed on a position vector and produces a single result value." },
    { name := "<function type>"
      productions := [["<direct function type>"], ["<operation>", "<function type>"],
        ["reduce", "<reduce type>", "<specific function type>"],
        ["combine", "<combination>", "<function type>", "<function type>"]]
      explanation := "This options specifies the objective function which has to be minimized " ++
        "by the PSO. A <function type> is some specification of an evaluation which can be " ++
        "executed on a position vector and produces a single result value."
      alternatives := [
        ("<direct function type>",
          "A <direct function type> describes a specific function directly. The solution " ++
          "vectors are evaluated to single values. Examples are standard functions (Sphere, " ++
          "Rastrigin, Rosenbrock, etc.) or constant functions."),
        ("<operation> <function type>",
          "An <operation> is applied to the result delivered by the connected <function type> " ++
          "object. Examples for operations are the logarithm, the square root or " ++
          "trigonometric functions."),
        ("reduce <reduce type> <specific function type>",
          "The reduce operator reduces the data vector received from some specific function " ++
          "to a single number. Some kind of aggregation can be done, e.g., sums or products. " ++
          "A <specific function type> calculates a vector of values by the given solution " ++
          "vector."),
        ("combine <combination> <function type> <function type>",
          "The combine command \"combine <combination> <function type> <function type>\" can " ++
          "be used to evaluate complex functions. You can use add (+), subtract (-), multiply " ++
          "(*), divide (/), minimum (min) and maximum (max) as possible combinations to " ++
          "combine various functions. Each combination is executed element wise. The option " ++
          "is described by a prefix notation for the evaluation which uniquely specifies the " ++
          "order of execution.")] },
    { name := "<direct function type>"
      productions := [["standard", "<standard function>"], ["constant", "<constant value>"]]
      defaultValue := some (.alternative ["standard", "<standard function>"])
      explanation := "A <direct function type> describes a specific function directly. The " ++
        "solution vectors are evaluated to single values. Examples are standard functions " ++
        "(Sphere, Rastrigin, Rosenbrock, etc.) or constant functions."
      alternatives := [
        ("standard <standard function>",
          "This option offers the chance to use a variety of pre implemented functions " ++
          "(Sphere, Rastrigin, Rosenbrock, etc.)."),
        ("constant <constant value>",
          "\"constant <constant value>\" represents a function, which always evaluates to the " ++
          "same specified value.")] },
    { name := "<standard function>"
      productions := [["sphere"], ["scaledsphere"], ["scaledsphere2", "<scale>"],
        ["scaledsphererand", "<rng description>"], ["scaledandhadamardrotatedshpere"],
        ["scaledandhadamardrotatedshpere2", "<scale>"], ["monosphere"], ["schwefel"],
        ["schwefel2"], ["rosenbrock"], ["movedrosenbrock"], ["rastrigin"],
        ["randomposdef", "<rng description>"], ["diagonal", "<scale>"], ["norm1"], ["normoo"],
        ["norm2"], ["norm4"], ["norm8"], ["norm2pk", "<positive int exponent>"],
        ["norm1pl2pmk", "<positive int exponent>"], ["sphereplus"], ["inclinedplane"],
        ["inclinedplaneasym"], ["twoCupsFunction"], ["sortFunction"],
        ["singleDifferentDirection", "<single dimension power>", "<remaining dimension power>", "<direction mode>"],
        ["testing"]]
      alternatives := [
        ("sphere", "\"sphere\" is the well know sphere function Sphere(x) = sum ((x[i])^2)."),
        ("scaledsphere",
          "\"scaledsphere\" is a scaled version of the Sphere function: scaledsphere(x) = sum " ++
          "((10^6)^(i/(D-1))(x[i]^2))."),
        ("scaledsphere2 <scale>",
          "\"scaledsphere2 <scale>\" is the same but the user can specify the scale as " ++
          "floating point number: scaledsphere2 <scale> (x) = sum " ++
          "((<scale>)^(i/(D-1))(x[i]^2))."),
        ("scaledsphererand <rng description>",
          "\"scaledsphererand <rng description>\" is a randomized version with randomly " ++
          "generated scales per dimension: scaledsphererand <random number generator " ++
          "description> (x) = sum (r_i(x[i]^2)) where r_i are once randomly generated non " ++
          "negative integer numbers with given RNG."),
        ("scaledandhadamardrotatedshpere",
          "If the number of dimensions D = 2^d is a power of two then " ++
          "\"scaledandhadamardrotatedshpere\" is a \"scaledsphere\" with Hadamard rotated " ++
          "input x."),
        ("scaledandhadamardrotatedshpere2 <scale>",
          "\"scaledandhadamardrotatedshpere2 <scale>\" is analogously to " ++
          "\"scaledandhadamardrotatedshpere\" but with user defined scale as floating point " ++
          "number."),
        ("monosphere", "monosphere (x) = (x[0])^2."),
        ("schwefel", "schwefel (x) = sum_\x7bi=0..D-1\x7d ((sum_\x7bj=0..i\x7d x[j])^2)."),
        ("schwefel2",
          "\"schwefel2\" is also known as Schwefel function in the literature. schwefel2 (x) " ++
          "= sum_\x7bi=0..D-1\x7d (-x[i] * sin(sqrt(abs(x[i]))))."),
        ("rosenbrock",
          "rosenbrock (x) = sum\x7bi=0..D-2\x7d (100 * (x[i+1] - x[i] * x[i])^2 + (1 - x[i])^2."),
        ("movedrosenbrock",
          "\"movedrosenbrock\" is a moved version of the rosenbrock function such that the " ++
          "optimum is at the origin. movedrosenbrock (x) " ++
          "=rosenbrock([(x[0])+1,(x[1])+1,....])."),
        ("rastrigin",
          "rastrigin (x) = sum\x7bi=0..D-1\x7d (10 + x[i]^2 - 10 * cos(2 * PI * x[i]))."),
        ("randomposdef <rng description>",
          "randomposdef <rng description> (x) = Transpose(x) * A * x with a once randomly " ++
          "generated positive definite matrix A with given RNG."),
        ("diagonal <scale>", "diagonal <scale> (x) = (sphere (x)) + <scale> * (sum(x[i]))^2."),
        ("norm1", "\"norm1\" is the Manhattan norm. norm1 (x) = sum abs(x[i])."),
        ("normoo", "\"normoo\" is the infinity norm. normoo (x) = max abs(x[i])."),
        ("norm2", "\"norm2\" is equivalent to the Sphere function."),
        ("norm4", "norm4 (x) = sum ((x[i])^4)."),
        ("norm8", "norm8 (x) = sum ((x[i])^8)."),
        ("norm2pk <positive int exponent>",
          "\"norm2pk <positive int exponent>\" is equivalent to the 2^<positive int exponent> " ++
          "norm. norm2pk <positive int exponent> (x) = sum ((x[i])^(2^<positive int " ++
          "exponent>))."),
        ("norm1pl2pmk <positive int exponent>",
          "\"norm1pl2pmk <positive int exponent>\" is equivalent to the (1+2^(-<positive int " ++
          "exponent>)) norm. norm1pl2pmk <positive int exponent> (x) = sum " ++
          "((abs(x[i]))^(1+2^(-<positive int exponent>)))."),
        ("sphereplus",
          "sphereplus (x) = (sphere (x)) if every entry of x is non-negative, and INFINITY " ++
          "otherwise."),
        ("inclinedplane", "inclinedplane (x) = -sum_\x7bi=0..D-1\x7d x[i]."),
        ("inclinedplaneasym", "inclinedplaneasym (x) = -sum_\x7bi=0..D-1\x7d (i+1)*x[d]."),
        ("twoCupsFunction",
          "twoCupsFunction (x) = sum_\x7bi=0..D-1\x7d f(x[i]), where f(y) = (y+1)^2 if y <  0 " ++
          "and f(y) = (y-1)^4 if y >= 0."),
        ("sortFunction", "sortFunction (x) = sum_\x7b0<=d_1<d_2<D\x7d(x[d_1]>=x[d_2])"),
        ("singleDifferentDirection <single dimension power> <remaining dimension power> <direction mode>",
          "Let \"dir\" be the specified direction specified by the <direction mode> then " ++
          "singleDifferentDirection (x) is evaluated by the following sequence of " ++
          "instructions: proj := ((x.dir)/(dir.dir)) * dir (proj is the projection of the " ++
          "current position to dir); orth := x - proj (orth is the orthogonal part of the " ++
          "position); return (proj.proj)^<single dimension power> + (orth.orth)^<remaining " ++
          "dimension power>; Here (a.b) is the scalar product of the vectors a and b."),
        ("testing",
          "This function is just for testing and debugging. Behavior and shape is not defined " ++
          "and may change during the process or after software updates.")] },
    { name := "<positive int exponent>"
      aliasOf := some "<positive integer value>"
      defaultValue := some (.text "2") },
    { name := "<single dimension power>"
      aliasOf := some "<float value>"
      defaultValue := some (.text "2.0") },
    { name := "<remaining dimension power>"
      aliasOf := some "<float value>"
      defaultValue := some (.text "5.0") },
    { name := "<direction mode>"
      productions := [["firstDimension"], ["diagonalDirection"],
        ["randomdirection", "<rng description>"]]
      defaultValue := some (.alternative ["diagonalDirection"])
      alternatives := [
        ("firstDimension",
          "if \"<direction mode>\" is set to \"firstDimension\" then the special direction is " ++
          "dir=(1,0,...,0)"),
        ("diagonalDirection",
          "if \"<direction mode>\" is set to \"diagonalDirection\" then the special direction " ++
          "is dir=(1,1,...,1)"),
        ("randomdirection <rng description>",
          "if \"<direction mode>\" is set to \"randomdirection <rng description>\" then the " ++
          "special direction is dir=(y[0],...,y[D-1]), where each y[i] is an independent " ++
          "normal distributed random variable with expectation 0 and variance 1 generated " ++
          "with the given RNG and its random double values.")] },
    { name := "<constant value>"
      productions := [["E"], ["Pi"], ["plusInfinity"], ["minusInfinity"], ["<float value>"]]
      alternatives := [
        ("E",
          "Euler's number. It is approximately 2.71828. This value is always evaluated " ++
          "according to the current precision."),
        ("Pi",
          "The number Pi. It is approximately 3.14159. This value is always evaluated " ++
          "according to the current precision.")] },
    { name := "<operation>"
      productions := [["sqrt"], ["log2"], ["logE"], ["abs"], ["pow", "<float exponent>"], ["exp"],
        ["sin"], ["cos"], ["tan"], ["arcsin"], ["arccos"], ["arctan"]]
      alternatives := [
        ("sqrt", "\"sqrt\" is the square root."),
        ("log2", "\"log2\" is the logarithm with base 2."),
        ("logE", "\"logE\" is the natural logarithm (logarithm with base E)."),
        ("abs", "\"abs\" is the absolute value."),
        ("pow <float exponent>",
          "\"pow <float exponent>\" is the power of the value with the specified exponent."),
        ("exp", "\"exp\" is the exponential function."),
        ("sin", "\"sin\" is the sine function."),
        ("cos", "\"cos\" is the cosine function."),
        ("tan", "\"tan\" is the tangent function."),
        ("arcsin",
          "\"arcsin\" is the respective arcus-functions to the sine function (inverse " ++
          "trigonometric function)"),
        ("arccos",
          "\"arccos\" is the respective arcus-functions to the cosine function (inverse " ++
          "trigonometric function)"),
        ("arctan",
          "\"arctan\" is the respective arcus-functions to the tangent function (inverse " ++
          "trigonometric function)")] },
    { name := "<float exponent>"
      aliasOf := some "<float value>"
      defaultValue := some (.text "0.5") },
    { name := "<reduce type>"
      productions := [["specific", "<element id>"], ["increasingOrderNthObject", "<element id>"],
        ["arithmeticAverage"], ["geometricAverage"], ["sum"], ["product"], ["maximum"],
        ["minimum"], ["functionEvaluation", "<function type>"]]
      explanation := "The reduce operator specifies how values are combined."
      alternatives := [
        ("specific <element id>",
          "\"specific <element id>\" picks only the value at some specified index. Please " ++
          "note that the indices are 0-indexed (Example for <function type>: Let the position " ++
          "of the current particle be (7,6,5) then the following functions can be applied: " ++
          "\"reduce specific 0 identity\" produces the data 7, \"reduce specific 1 identity\" " ++
          "produces the data 6 and \"reduce specific 2 identity\" produces the data 5; " ++
          "Example for <statistic type>: Let the number of particles be 2 and the number of " ++
          "dimensions be 3. Let the position of particle 0 be pos(0)=(1,2,3) and let the " ++
          "position of particle 1 be pos(1)=(5,6,7) then the following statistics can be " ++
          "applied: \"reduce particle specific 0 position\" produces the data (1,2,3), " ++
          "\"reduce particle specific 1 position\" produces the data (5,6,7), \"reduce " ++
          "dimension specific 0 position\" produces the data (1,5), \"reduce dimension " ++
          "specific 1 position\" produces the data (2,6) and \"reduce dimension specific 2 " ++
          "position\" produces the data (3,7))."),
        ("increasingOrderNthObject <element id>",
          "\"increasingOrderNthObject <element id>\" picks the value at the specified " ++
          "position after the values, which should be reduced, are sorted. Please note that " ++
          "the indices are 0-indexed (Example for <function type>: Let the position of the " ++
          "current particle be (7,6,5) then the following functions can be applied: \"reduce " ++
          "increasingOrderNthObject 0 identity\" produces the data 5, \"reduce " ++
          "increasingOrderNthObject 1 identity\" produces the data 6 and \"reduce " ++
          "increasingOrderNthObject 2 identity\" produces the data 7; Example for <statistic " ++
          "type>: Let the number of particles be 2 and the number of dimensions be 3. Let the " ++
          "position of particle 0 be pos(0)=(7,2,9) and let the position of particle 1 be " ++
          "pos(1)=(6,8,1) then the following statistics can be applied: \"reduce particle " ++
          "increasingOrderNthObject 0 position\" produces the data (6,2,1), \"reduce particle " ++
          "increasingOrderNthObject 1 position\" produces the data (7,8,9), \"reduce " ++
          "dimension increasingOrderNthObject 0 position\" produces the data (2,1), \"reduce " ++
          "dimension increasingOrderNthObject 1 position\" produces the data (7,6) and " ++
          "\"reduce dimension increasingOrderNthObject 2 position\" produces the data (9,8))."),
        ("arithmeticAverage",
          "\"arithmeticAverage\" calculates the arithmetic average of the values which should " ++
          "be reduced (Example for <function type>: Let the position of the current particle " ++
          "be (7,6,5) then the following function can be applied: \"reduce arithmeticAverage " ++
          "identity\" produces the data 6; Example for <statistic type>: Let the number of " ++
          "particles be 2 and the number of dimensions be 3. Let the position of particle 0 " ++
          "be pos(0)=(2,4,3) and let the position of particle 1 be pos(1)=(6,8,1) then the " ++
          "following statistics can be applied: \"reduce particle arithmeticAverage " ++
          "position\" produces the data (4,6,2) and \"reduce dimension arithmeticAverage " ++
          "position\" produces the data (3,5))."),
        ("geometricAverage",
          "\"geometricAverage\" calculates the geometric average of the values which should " ++
          "be reduced (Example for <function type>: Let the position of the current particle " ++
          "be (6,4,9) then the following function can be applied: \"reduce geometricAverage " ++
          "identity\" produces the data 6; Example for <statistic type>: Let the number of " ++
          "particles be 2 and the number of dimensions be 3. Let the position of particle 0 " ++
          "be pos(0)=(64,1,729) and let the position of particle 1 be pos(1)=(256,4,2916) " ++
          "then the following statistics can be applied: \"reduce particle geometricAverage " ++
          "position\" produces the data (128,2,1458) and \"reduce dimension geometricAverage " ++
          "position\" produces the data (36,144))."),
        ("sum",
          "\"sum\" caculates the sum of the values which should be reduced (Example for " ++
          "<function type>: Let the position of the current particle be (6,4,9) then the " ++
          "following function can be applied: \"reduce sum identity\" produces the data 19; " ++
          "Example for <statistic type>: Let the number of particles be 2 and the number of " ++
          "dimensions be 3. Let the position of particle 0 be pos(0)=(2,4,3) and let the " ++
          "position of particle 1 be pos(1)=(6,8,1) then the following statistics can be " ++
          "applied: \"reduce particle sum position\" produces the data (8,12,4) and \"reduce " ++
          "dimension sum position\" produces the data (9,15))."),
        ("product", "\"product\" calculates the product of the values which should be reduced."),
        ("maximum",
          "\"maximum\" calculates the maximal value of the values which should be reduced."),
        ("minimum",
          "\"minimum\" calculates the minimal value of the values which should be reduced."),
        ("functionEvaluation <function type>",
          "\"functionEvaluation <function type>\" interprets the values which should be " ++
          "reduced as input of the specified function and evaluates this function. This might " ++
          "fail if the number of entries does not match the specified number of dimensions, " ++
          "because then the input can possibly not be interpreted as valid position."),
        ("objectiveFunctionEvaluation",
          "\"objectiveFunctionEvaluation\" interprets the values which should be reduced as " ++
          "input of the specified objective function and evaluates this function. This might " ++
          "fail if the number of entries does not match the specified number of dimensions, " ++
          "because then the input can possibly not be interpreted as valid position. The " ++
          "objective function is specified by the keyword \"function\".")] },
    { name := "<element id>"
      aliasOf := some "<nonnegative integer value>"
      defaultValue := some (.text "0") },
    { name := "<specific function type>"
      productions := [["<direct specific function type>"],
        ["<operation>", "<specific function type>"],
        ["combine", "<combination>", "<specific function type>", "<specific function type>"]]
      explanation := "A \"<specific function type>\" represents a vector of values, which is " ++
        "calculated with the given position. It needs to be reduced in some way to receive an " ++
        "usable function, which can then be evaluated."
      alternatives := [
        ("<direct specific function type>",
          "A \"<direct specific function type>\" describes a specific \"<specific function " ++
          "type>\" directly."),
        ("<operation> <specific function type>",
          "An <operation> is applied to the result delivered by the connected <specific " ++
          "function type> object. Examples for operations are the logarithm, the square root " ++
          "or trigonometric functions."),
        ("combine <combination> <specific function type> <specific function type>",
          "The combine command \"combine <combination> <specific function type> <specific " ++
          "function type>\" can be used to evaluate complex functions. You can use add (+), " ++
          "subtract (-), multiply (*), divide (/), minimum (min) and maximum (max) as " ++
          "possible combinations to combine various functions. Each combination is executed " ++
          "element wise. The option is described by a prefix notation for the evaluation " ++
          "which uniquely specifies the order of execution.")] },
    { name := "<direct specific function type>"
      productions := [["identity"], ["constant", "<constant value>"]]
      alternatives := [
        ("identity",
          "\"identity\" supplies the bare position/input which should be evaluated as output."),
        ("constant <constant value>",
          "\"constant <constant value>\" represents a function, which always evaluates to the " ++
          "same specified value. The number of dimensions of the result will be equal to the " ++
          "number of dimensions of the search space.")] },
    { name := "<combination>"
      productions := [["+"], ["-"], ["*"], ["/"], ["min"], ["max"]] },
    { name := "functionbounds"
      productions := 
        [["<first dimension id>", "<last dimension id>", "<lower bound>", "<upper bound>"]]
      repeatExplanation := "Sets the lower and upper bound of the bounding box for the " ++
        "function to the given values for all dimensions form <first dimension id> to <last " ++
        "dimension id>. Relevant for initialization of the particles (if " ++
        "\"initializationinformation\" with subcommands \"bounds\", \"centerandrange\" and " ++
        "\"randomcenterandrange\" is not used) and it is relevant for bound handling and for " ++
        "the option \"functionInfinityOutside\". For standard functions the usual function " ++
        "bounds are implemented, but for all other functions or functions consisting of more " ++
        "than just a standard function the function bounds are set to [-100.0, 100.0] in all " ++
        "dimensions. If any other function bound is intended, then it need to be specified! " ++
        "Please note that dimension indices are 0-indexed and the ranges are inclusive bounds." } ]

end GrammarForm.Shipped
