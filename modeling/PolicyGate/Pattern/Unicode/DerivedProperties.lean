import PolicyGate.Pattern.Unicode.Derivation
/-! # Derived properties

The yes-or-no properties that Unicode 16 derives from categories and from listed properties. One that
another is derived from stands in front of it. -/

namespace PolicyGate.Pattern.Unicode

def derivedProperties : List NamedDerivation :=
  [⟨["alphabetic", "alpha"],
     .either
       (.categories ["lu", "ll", "lt", "lm", "lo", "nl"])
       (.property "otheralphabetic")⟩,
   ⟨["lowercase", "lower"],
     .either
       (.categories ["ll"])
       (.property "otherlowercase")⟩,
   ⟨["uppercase", "upper"],
     .either
       (.categories ["lu"])
       (.property "otheruppercase")⟩,
   ⟨["math"],
     .either
       (.categories ["sm"])
       (.property "othermath")⟩,
   ⟨["cased"],
     .either
       (.either
         (.categories ["lu", "ll", "lt"])
         (.property "otherlowercase"))
       (.property "otheruppercase")⟩,
   ⟨["caseignorable", "ci"],
     .either
       (.categories ["mn", "me", "cf", "lm", "sk"])
       (.listed
         ["27 2E 3A B7 387 55F 5F4 2018-2019 2024 2027 FE13 FE52 FE55 FF07 FF0E FF1A"])⟩,
   ⟨["graphemeextend", "grext"],
     .either
       (.categories ["mn", "me"])
       (.property "othergraphemeextend")⟩,
   ⟨["graphemebase", "grbase"],
     .without
       (.categories
         ["lu", "ll", "lt", "lm", "lo", "mc", "nd", "nl", "no", "pc", "pd", "pe", "pf",
          "pi", "po", "ps", "sc", "sk", "sm", "so", "zs"])
       (.property "othergraphemeextend")⟩,
   ⟨["idstart", "ids"],
     .without
       (.either
         (.categories ["lu", "ll", "lt", "lm", "lo", "nl"])
         (.property "otheridstart"))
       (.either
         (.property "patternsyntax")
         (.property "patternwhitespace"))⟩,
   ⟨["idcontinue", "idc"],
     .either
       (.property "idstart")
       (.either
         (.categories ["mn", "mc", "nd", "pc"])
         (.property "otheridcontinue"))⟩,
   ⟨["xidstart", "xids"],
     .without
       (.property "idstart")
       (.listed ["37A E33 EB3 309B-309C FC5E-FC63 FDFA-FDFB FE70-FE7E/2 FF9E-FF9F"])⟩,
   ⟨["xidcontinue", "xidc"],
     .without
       (.property "idcontinue")
       (.listed ["37A 309B-309C FC5E-FC63 FDFA-FDFB FE70-FE7E/2"])⟩]

end PolicyGate.Pattern.Unicode
