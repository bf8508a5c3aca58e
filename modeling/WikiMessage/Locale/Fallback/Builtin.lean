import WikiMessage.Locale.Fallback

/-! # The fallback lists that are known without a table -/

namespace WikiMessage.Locale

def builtinEntries : List (String × List String) :=
  [
    ("ab", ["ru"]), ("ace", ["id"]), ("aln", ["sq"]), ("als", ["gsw", "de"]), ("an", ["es"]),
    ("anp", ["hi"]), ("arn", ["es"]), ("arz", ["ar"]), ("av", ["ru"]), ("ay", ["es"]),
    ("ba", ["ru"]), ("bar", ["de"]), ("bat-smg", ["sgs", "lt"]), ("bcc", ["fa"]),
    ("be-x-old", ["be-tarask"]), ("bh", ["bho"]), ("bjn", ["id"]), ("bm", ["fr"]), ("bpy", ["bn"]),
    ("bqi", ["fa"]), ("br", ["fr"]), ("bug", ["id"]), ("cbk-zam", ["es"]), ("ce", ["ru"]),
    ("crh", ["crh-latn"]), ("crh-cyrl", ["ru"]), ("csb", ["pl"]), ("cv", ["ru"]),
    ("de-at", ["de"]), ("de-ch", ["de"]), ("de-formal", ["de"]), ("dsb", ["hsb", "de"]),
    ("dtp", ["ms"]), ("egl", ["it"]), ("eml", ["it"]), ("en-ca", ["en"]), ("en-gb", ["en"]),
    ("es-formal", ["es"]), ("ff", ["fr"]), ("fit", ["fi"]), ("frc", ["fr"]), ("frp", ["fr"]),
    ("frr", ["de"]), ("fur", ["it"]), ("gag", ["tr"]), ("gan", ["gan-hant", "zh-hant", "zh-hans"]),
    ("gl", ["pt"]), ("glk", ["fa"]), ("gn", ["es"]), ("gsw", ["de"]), ("hif", ["hif-latn"]),
    ("hsb", ["dsb", "de"]), ("ht", ["fr"]), ("hu-formal", ["hu"]), ("ii", ["zh-cn", "zh-hans"]),
    ("inh", ["ru"]), ("iu", ["ike-cans"]), ("jut", ["da"]), ("jv", ["id"]),
    ("kaa", ["kk-latn", "kk-cyrl"]), ("kbd", ["kbd-cyrl"]), ("khw", ["ur"]), ("kiu", ["tr"]),
    ("kk", ["kk-cyrl"]), ("kk-arab", ["kk-cyrl"]), ("kk-cn", ["kk-arab", "kk-cyrl"]),
    ("kk-kz", ["kk-cyrl"]), ("kk-latn", ["kk-cyrl"]), ("kk-tr", ["kk-latn", "kk-cyrl"]),
    ("kl", ["da"]), ("koi", ["ru"]), ("krc", ["ru"]), ("ksh", ["de"]), ("ku", ["ku-latn"]),
    ("kv", ["ru"]), ("lad", ["es"]), ("lb", ["de"]), ("lbe", ["ru"]), ("lez", ["ru"]),
    ("li", ["nl"]), ("lij", ["it"]), ("liv", ["et"]), ("lmo", ["it"]), ("ln", ["fr"]),
    ("ltg", ["lv"]), ("lzz", ["tr"]), ("mai", ["hi"]), ("mdf", ["myv", "ru"]), ("mg", ["fr"]),
    ("mhr", ["mrj", "ru"]), ("min", ["id"]), ("mo", ["ro"]), ("mrj", ["mhr", "ru"]),
    ("mwl", ["pt"]), ("myv", ["ru"]), ("mzn", ["fa"]), ("nah", ["es"]), ("nap", ["it"]),
    ("nds", ["de"]), ("nds-nl", ["nl"]), ("nl-informal", ["nl"]), ("nrm", ["fr"]), ("oc", ["fr"]),
    ("olo", ["fi"]), ("os", ["ru"]), ("pcd", ["fr"]), ("pdc", ["de"]), ("pdt", ["de"]),
    ("pfl", ["de"]), ("pms", ["it"]), ("pt", ["pt-br"]), ("pt-br", ["pt"]), ("qu", ["es"]),
    ("qug", ["qu", "es"]), ("rgn", ["it"]), ("rmy", ["ro"]), ("roa-tara", ["it"]),
    ("rue", ["uk", "ru"]), ("rup", ["ro"]), ("ruq", ["ruq-latn", "ro"]), ("sa", ["hi"]),
    ("sah", ["ru"]), ("scn", ["it"]), ("sg", ["fr"]), ("sgs", ["lt"]), ("sli", ["de"]),
    ("sr", ["sr-ec"]), ("srn", ["nl"]), ("stq", ["de"]), ("su", ["id"]), ("szl", ["pl"]),
    ("tcy", ["kn"]), ("tg", ["tg-cyrl"]), ("tt", ["tt-cyrl", "ru"]), ("tt-cyrl", ["ru"]),
    ("ty", ["fr"]), ("tyv", ["ru"]), ("udm", ["ru"]), ("ug", ["ug-arab"]), ("uk", ["ru"]),
    ("vec", ["it"]), ("vep", ["et"]), ("vls", ["nl"]), ("vmf", ["de"]), ("vot", ["fi"]),
    ("vro", ["et"]), ("wa", ["fr"]), ("wo", ["fr"]), ("wuu", ["zh-hans"]), ("xal", ["ru"]),
    ("xmf", ["ka"]), ("yi", ["he"]), ("yue", ["zh-hk", "zh-hant", "zh-hans"]), ("za", ["zh-hans"]),
    ("zea", ["nl"]), ("zh", ["zh-hans"]), ("zh-classical", ["lzh"]), ("zh-cn", ["zh-hans"]),
    ("zh-hant", ["zh-hans"]), ("zh-hk", ["zh-hant", "zh-hans"]), ("zh-min-nan", ["nan"]),
    ("zh-mo", ["zh-hk", "zh-hant", "zh-hans"]), ("zh-my", ["zh-sg", "zh-hans"]),
    ("zh-sg", ["zh-hans"]), ("zh-tw", ["zh-hant", "zh-hans"]), ("zh-yue", ["yue"])
  ]

def FallbackTable.builtin : FallbackTable := FallbackTable.ofEntries builtinEntries

/-- The chain of a locale by the built-in lists. -/
def builtinChain (locale : String) : List String :=
  FallbackTable.builtin.chain defaultFinal locale

end WikiMessage.Locale
