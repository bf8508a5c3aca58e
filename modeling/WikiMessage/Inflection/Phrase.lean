import WikiMessage.Inflection.Ending

/-! # Forms made by a word in front or an ending behind -/

namespace WikiMessage.Inflection

def bosnian : Rule := fun word form =>
  match form with
  | "instrumental" => "s ".toList ++ word
  | "lokativ" => "o ".toList ++ word
  | _ => word

/-- Upper and Lower Sorbian. -/
def sorbian : Rule := fun word form =>
  match form with
  | "instrumental" => "z ".toList ++ word
  | "lokatiw" => "wo ".toList ++ word
  | _ => word

def slovenian : Rule := fun word form =>
  match form with
  | "mestnik" => "o ".toList ++ word
  | "orodnik" => "z ".toList ++ word
  | _ => word

def hungarian : Rule := fun word form =>
  match form with
  | "rol" => word ++ "ról".toList
  | "ba" => word ++ "ba".toList
  | "k" => word ++ "k".toList
  | _ => word

/-- Days of the week after the word for day. -/
def irish : Rule := fun word form =>
  if form = "ainmlae" then
    match String.ofList word with
    | "an Domhnach" => "Dé Domhnaigh".toList
    | "an Luan" => "Dé Luain".toList
    | "an Mháirt" => "Dé Mháirt".toList
    | "an Chéadaoin" => "Dé Chéadaoin".toList
    | "an Déardaoin" => "Déardaoin".toList
    | "an Aoine" => "Dé hAoine".toList
    | "an Satharn" => "Dé Sathairn".toList
    | _ => word
  else word

end WikiMessage.Inflection
