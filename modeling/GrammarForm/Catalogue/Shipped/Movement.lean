import GrammarForm.Grammar.Symbol

/-!
# The shipped catalogue: the movement of particles

The symbol records of the shipped catalogue that concern the movement of particles.
-/

namespace GrammarForm.Shipped

/-- The records that concern the movement of particles. -/
def movementRecords : List SymbolRecord :=
  [ { name := "positionAndVelocityUpdater"
      productions := [["default"], ["orientationChange", "<delta>"], ["delta", "<delta>"],
        ["delta", "<delta>", "<gamma>"], ["deltatcs", "<delta>"],
        ["deltatcs", "<delta>", "<gamma>"],
        ["dimensionindependent", "<reduction scale>", "<max directions>"], ["testing"]]
      defaultValue := some (.alternative ["default"])
      explanation := "Set position and velocity update strategy."
      alternatives := [
        ("default",
          "\"positionAndVelocityUpdater default\" means just that the well known movement " ++
          "equations are used in their standard form."),
        ("orientationChange <delta>",
          "\"positionAndVelocityUpdater orientationChange <delta>\" means the following: " ++
          "Random values of the standard movement equations are calculated in an orthogonal " ++
          "transformed space. Let p[i] = log_2 (abs(v[i]) + abs(x[i] - l[i]) + abs(x[i] - " ++
          "g[i])), where x[i], v[i], l[i] and g[i] are the position, velocity, local " ++
          "attractor and global attractor of \"direction\" i at the current iteration and " ++
          "particle. If in current orientation the minimal and maximal value of p[i] differ " ++
          "more than \"<delta>\" then the lowest and largest directions are rotated with a " ++
          "hadamard transformation. Beside that change the default behaviour is used."),
        ("delta <delta>",
          "\"positionAndVelocityUpdater delta <delta>\" means that if for a particle and all " ++
          "dimensions (abs(x[i]-g[i]) + abs(v[i])) < (<delta>) then the velocity is " ++
          "initialized randomly in [-<delta>, <delta>] for all dimensions. Otherwise default " ++
          "behavior is used. This variant is described in the paper \"Particle Swarm " ++
          "Optimization Almost Surely Finds Local Optima\" by M. Schmitt and R. Wanka " ++
          "published in Proceedings of GECCO 2013."),
        ("delta <delta> <gamma>",
          "\"positionAndVelocityUpdater delta <delta> <gamma>\" means the same but with limit " ++
          "and scale <delta>*(<gamma>^k) where k is the number of times the random " ++
          "initialization of the velocity is applied already. If <gamma> equals 1.0 then this " ++
          "updater performs equal to the updater with only one parameter."),
        ("deltatcs <delta>",
          "\"positionAndVelocityUpdater deltatcs <delta>\" means that if in the situation of " ++
          "an update for position and velocity for a particle p the new velocity is " ++
          "initialized randomly in [-<delta>, <delta>] in those dimensions, where for ALL " ++
          "particles the following condition is true in that dimension: (abs(x[i]-g[i]) + " ++
          "abs(v[i])) < (<delta>). For all other dimensions default behavior is used. This " ++
          "variant is described in the paper \"Particle Swarm Optimization Almost Surely " ++
          "Finds Local Optima\" by M. Schmitt and R. Wanka published in Journal TCS 2014."),
        ("deltatcs <delta> <gamma>",
          "\"positionAndVelocityUpdater deltatcs <delta> <gamma>\" means the same but with " ++
          "limit and scale <delta>*(<gamma>^k) where k is the number of times the random " ++
          "initialization of the velocity is applied already. If <gamma> equals 1.0 then this " ++
          "updater performs equal to the updater with only one parameter."),
        ("dimensionindependent <reduction scale> <max directions>",
          "\"positionAndVelocityUpdater dimensionindependent <reduction> <max_directions>\" " ++
          "means that for each update is performed in at most <max_directions> directions. " ++
          "Each update direction is calculated orthogonally to the previous directions and is " ++
          "performed in main movement direction plus some random direction scaled by " ++
          "<reduction>. The smaller the value of <reduction> is the greater is the portion of " ++
          "the main movement direction belonging to the first sampled direction. Formally: " ++
          "First the previous velocity is scaled by the specified swarm parameter; main " ++
          "movement direction = (difference vector of local and global attractor) if they are " ++
          "not equal and (difference vector of position and any of the equal attractors) " ++
          "otherwise. If this vector is a zero vector then position and attractors are equal " ++
          "and therefore there is no vector to local/global attractor, which can be scaled " ++
          "randomly. The directions are sampled iteratively: used_directions := \x7b\x7d; for " ++
          "d from 1 to <max_directions> - 1 do \x7b random_direction := uniformly at random " ++
          "choose a direction orthogonal to used_directions; remaining_main_direction := part " ++
          "of main movement direction which is orthogonal to used_directions; normalize both " ++
          "directions; next_direction = random_direction * <reduction> + " ++
          "remaining_main_direction; // The smaller the value of <reduction> is the more of " ++
          "the remaining_main_direction will be covered by the next direction; perform " ++
          "standard PSO velocity update with local/global attractor in this direction; add " ++
          "next_direction to used_directions;\x7d end for; calculate orthogonal part of " ++
          "difference vector to attractors; perform standard PSO velocity update in these " ++
          "directions;"),
        ("testing",
          "The \"positionAndVelocityUpdater testing\" is just for testing and debugging. " ++
          "Behavior is not defined and may change during the process or after software " ++
          "updates.")] },
    { name := "<delta>"
      aliasOf := some "<float value>"
      defaultValue := some (.text "1e-7") },
    { name := "<gamma>"
      aliasOf := some "<float value>"
      defaultValue := some (.text "0.1") },
    { name := "<reduction scale>"
      aliasOf := some "<float value>"
      defaultValue := some (.text "0.1") },
    { name := "<max directions>"
      aliasOf := some "<nonnegative integer value>"
      defaultValue := some (.text "2") },
    { name := "boundhandling"
      productions := [["noBounds"], ["absorption", "<adjust dimensions>"],
        ["randomforth", "<adjust dimensions>"], ["random", "resetAll"],
        ["random", "resetViolated"], ["hyperbolic"], ["nearest"], ["reflect"], ["torus"]]
      defaultValue := some (.alternative ["noBounds"])
      explanation := "Set the bound handling strategy. The chosen strategy will be applied to " ++
        "handle/avoid positions outside the search space (outside the function bounds)."
      alternatives := [
        ("noBounds",
          "With bound handling \"noBounds\" it is allowed that the new position is outside of " ++
          "the function bounds. No change of position or velocity happens in that case. In " ++
          "addition to that bound handling strategy with command \"functionInfinityOutside\" " ++
          "it can be specified whether all values outside of the function bounds are " ++
          "calculated with the specified function or are directly set to +infinity."),
        ("absorption <adjust dimensions>",
          "With bound handling \"absorption\" the new position will be the old position + " ++
          "velocity if this lies within the bounds and old position + scale * velocity " ++
          "otherwise, where scale is the largest value in [0.0, 1.0] such that the new " ++
          "position lies within or on the function bounds. \"<adjust dimensions>\" specifies " ++
          "which dimensions are marked as to be adjusted with the velocity adjustment."),
        ("randomforth <adjust dimensions>",
          "With bound handling \"randomforth\" the new position will be the old position + " ++
          "velocity if this lies within the bounds and old position + randval * scale * " ++
          "velocity otherwise, where randval is a random value in the interval [0, 1] " ++
          "(uniformly at random for each application) and scale is the largest value in [0.0, " ++
          "1.0] such that the new position lies within or on the function bounds. \"<adjust " ++
          "dimensions>\" specifies which dimensions are marked as to be adjusted with the " ++
          "velocity adjustment."),
        ("random resetAll",
          "With bound handling \"random\" the position is resampled uniformly inside the " ++
          "function bounds. With additional option \"random resetAll\" all dimensions are " ++
          "resampled."),
        ("random resetViolated",
          "With bound handling \"random\" the position is resampled uniformly inside the " ++
          "function bounds. With additional option \"random resetViolated\" only for " ++
          "dimensions with violations resampling is applied."),
        ("hyperbolic",
          "With bound handling \"hyperbolic\" the velocities are adjusted each time. For each " ++
          "particle and for each dimension the following is applied: If velocity is positive " ++
          "then it is multiplied by 1 / ( 1 + abs( velocity / ( function upper bound - " ++
          "position ) ) ) else it is multiplied by 1 / ( 1 + abs( velocity / ( position - " ++
          "function lower bound ) ) ) WARNING: Any specification of a velocity adjustment is " ++
          "ignored with hyperbolic, because it already adjusts velocity."),
        ("nearest",
          "With bound handling \"nearest\" the position is adjusted to the nearest position " ++
          "inside or on the function bounds."),
        ("reflect",
          "With bound handling \"reflect\" the movement is reflected at the function " ++
          "boundaries (also known as mirror)."),
        ("torus",
          "With bound handling \"torus\" the movement is wrapped around the function bounds. " ++
          "For the movement equations the directions to the attractors are calculated either " ++
          "directly or through the function bounds depending on which of the possible " ++
          "directions is shorter. I. e. let X = 0.8 , L = 0.1 and G = 0.6 be position, local " ++
          "attractor and global attractor in a single dimension and let 0 be the lower " ++
          "function bound and 1 be the upper function bound then the direction to the local " ++
          "attractor \"(L-X)\" is 0.3 and the direction to the global attractor is -0.2. The " ++
          "bound handling \"bounded mirror\" can not be stated directly because mirroring a " ++
          "function is not possible with functionality of bound handling. Instead it can be " ++
          "described by the boundhandling torus and manually mirroring the function. " ++
          "Mirroring the function can be easily achieved. Let <function description> be the " ++
          "<function type> which should be processed and let <lb> and <ub> be the lower and " ++
          "upper function bounds. Then you can use the following commands for " ++
          "mirroring:\"function reduce functionEvaluation <function description> combine - " ++
          "constant <ub> abs identity\" and \"functionbounds 0 (<number of dimensions> - 1) " ++
          "(<lb> - <ub>) (<ub> - <lb>)\", where expressions in round brackets \"(\" \")\" " ++
          "need to be calculated by hand. With this commands the function is mirrored to the " ++
          "positive direction. For mirroring to the negative direction you can use \"function " ++
          "reduce functionEvaluation <function description> combine + constant <lb> abs " ++
          "identity\" and \"functionbounds 0 (<number of dimensions> - 1) (<lb> - <ub>) (<ub> " ++
          "- <lb>)\".")] },
    { name := "<adjust dimensions>"
      productions := [["markAllOnChange"], ["markAllOutsideBoundsWithoutChange"],
        ["markAllOnBoundsAfterChange"]]
      defaultValue := some (.alternative ["markAllOnChange"])
      explanation := "\"<adjust dimensions>\" specifies which dimensions are marked as to be " ++
        "adjusted with the velocity adjustment."
      alternatives := [
        ("markAllOnChange",
          "\"markAllOnChange\" specifies that all dimensions are marked if any scaling is " ++
          "necessary."),
        ("markAllOutsideBoundsWithoutChange",
          "\"markAllOutsideBoundsWithoutChange\" specifies that all dimensions are marked " ++
          "where the new position would have been outside of the bounds without scaling."),
        ("markAllOnBoundsAfterChange",
          "\"markAllOnBoundsAfterChange\" specifies that all dimensions are marked where the " ++
          "scaled new position lies on the boundary.")] },
    { name := "functionBehaviorOutsideOfBounds"
      productions := [["normal"], ["infinity"], ["periodic"]]
      defaultValue := some (.alternative ["infinity"])
      explanation := "This command decides how the function value is set if the position is " ++
        "outside of the function bounds."
      alternatives := [
        ("normal",
          "The option \"normal\" tries to evaluate the function with specified evaluation " ++
          "even if the position is outside of the function bounds."),
        ("infinity",
          "The option \"infinity\" sets the value to +infinity if the objective function is " ++
          "evaluated on positions outside of the function bounds."),
        ("periodic",
          "If the position is outside of the function bounds then the option \"periodic\" " ++
          "moves the position with stepsize according to the distance from lower to upper " ++
          "function bound inside the search space and then evaluates the function. I.e. Let " ++
          "LB UB and X be lower function bound, upper function bound and position in current " ++
          "dimension. Then the evaluated position is (X - floor((X - LB) / (UB - LB)) * (UB - " ++
          "LB)). This is applied to all dimensions, where the position is outside of the " ++
          "function bounds.")] },
    { name := "velocityAdjustment"
      productions := [["none"], ["zero"], ["mirror"], ["deterministicBack", "<lambda>"],
        ["randomBack"], ["adjust"]]
      defaultValue := some (.alternative ["none"])
      explanation := "Set the strategy how the velocity is adjusted if the respective " ++
        "dimension is marked by the bound handling strategy. The respective velocity " ++
        "adjustment is applied after the bound handling strategy and it is applied to all " ++
        "dimensions which are marked by the bound handling strategy as adjusted."
      alternatives := [
        ("none", "Velocity will not be adjusted."),
        ("zero", "Velocity of adjusted dimensions will be set to zero."),
        ("mirror", "Velocity of adjusted dimensions will be multiplied by -1."),
        ("deterministicBack <lambda>",
          "Velocity of adjusted dimensions will be multiplied by -<lambda>. <lambda> should " ++
          "be a floating point value. The value is most likely positive. A typical value for " ++
          "<lambda> is 0.5."),
        ("randomBack",
          "Same as deterministicBack but <lambda> is sampled independent and uniformly at " ++
          "random in [0,1]."),
        ("adjust",
          "The new velocity is adjusted to the difference of the new position, which is " ++
          "already modified by a bound handling mechanism, and the old position.")] },
    { name := "<lambda>"
      aliasOf := some "<float value>"
      defaultValue := some (.text "0.5") } ]

end GrammarForm.Shipped
