import MutantHunt.Sandbox.Shell.Word

/-!
# Options of shells

What scripts can turn on and off with `set`. Every option has a long name, and most have a letter too.
The two shells share some options and list them in different orders.
-/

namespace MutantHunt.Sandbox.Shell

namespace Dialect

/-- The options of a shell by their long names, in the order in which it lists them. -/
def namedOptions : Dialect → List (String × Option Char)
  | .dash =>
    [("errexit", some 'e'), ("noglob", some 'f'), ("ignoreeof", some 'I'), ("interactive", some 'i'),
      ("monitor", some 'm'), ("noexec", some 'n'), ("stdin", some 's'), ("xtrace", some 'x'),
      ("verbose", some 'v'), ("vi", some 'V'), ("emacs", some 'E'), ("noclobber", some 'C'),
      ("allexport", some 'a'), ("notify", some 'b'), ("nounset", some 'u'), ("privileged", some 'p'),
      ("nolog", none), ("debug", none)]
  | .bash =>
    [("allexport", some 'a'), ("braceexpand", some 'B'), ("emacs", none), ("errexit", some 'e'),
      ("errtrace", some 'E'), ("functrace", some 'T'), ("hashall", some 'h'), ("histexpand", some 'H'),
      ("history", none), ("ignoreeof", none), ("interactive-comments", none), ("keyword", some 'k'),
      ("monitor", some 'm'), ("noclobber", some 'C'), ("noexec", some 'n'), ("noglob", some 'f'),
      ("nolog", none), ("notify", some 'b'), ("nounset", some 'u'), ("onecmd", some 't'),
      ("physical", some 'P'), ("pipefail", none), ("posix", none), ("privileged", some 'p'),
      ("verbose", some 'v'), ("vi", none), ("xtrace", some 'x')]

/-- The letters of options, in the order in which a shell shows those that are on. -/
def optionLetters : Dialect → List Char
  | .dash => "efIimnsxvVECabup".toList
  | .bash => "abefhikmnprtuvxBCEHIPTcs".toList

/-- The letters that a script can turn on and off. -/
def settableLetters : Dialect → List Char
  | .dash => "aefInimsxvVECbup".toList
  | .bash => "abefhkmnptuvxBCEHPT".toList

/-- The letters that are on from the start. -/
def firstLetters : Dialect → List Char
  | .dash => []
  | .bash => ['h', 'B']

/-- The options without a letter that are on from the start. -/
def firstFeatures : Dialect → List String
  | .dash => []
  | .bash => ["interactive-comments"]

end Dialect

end MutantHunt.Sandbox.Shell
