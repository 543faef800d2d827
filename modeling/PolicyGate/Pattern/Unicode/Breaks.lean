import PolicyGate.Pattern.Unicode.Derivation
/-! # Breaks

The properties by which Unicode 16 finds the boundaries of what is perceived as one character, of
words and of sentences. -/

namespace PolicyGate.Pattern.Unicode

def graphemeBreaks : List NamedDerivation :=
  [⟨["cn", "control"],
     .listed
       ["0-9 B-C E-1F 7F-9F AD 61C 180E 200B 200E-200F 2028-202E 2060-206F FEFF FFF0-FFFB",
        "13430-1343F 1BCA0-1BCA3 1D173-1D17A E0000-E001F E0080-E00FF E01F0-E0FFF"]⟩,
   ⟨["cr"],
     .listed ["D"]⟩,
   ⟨["ex", "extend"],
     .either
       (.property "graphemeextend")
       (.listed ["1F3FB-1F3FF"])⟩,
   ⟨["l"],
     .listed ["1100-115F A960-A97C"]⟩,
   ⟨["lf"],
     .listed ["A"]⟩,
   ⟨["lv"],
     .listed ["AC00-D788/1C"]⟩,
   ⟨["lvt"],
     .without
       (.listed ["AC00-D7A3"])
       (.listed ["AC00-D788/1C"])⟩,
   ⟨["pp", "prepend"],
     .listed
       ["600-605 6DD 70F 890-891 8E2 D4E 110BD 110CD 111C2-111C3 113D1 1193F 11941 11A3A",
        "11A84-11A89 11D46 11F02"]⟩,
   ⟨["ri", "regionalindicator"],
     .property "regionalindicator"⟩,
   ⟨["sm", "spacingmark"],
     .either
       (.without
         (.without
           (.categories ["mc"])
           (.property "graphemeextend"))
         (.listed
           ["102B-102C 1038 1062-1064 1067-106D 1083 1087-108C 108F 109A-109C 1A61 1A63-1A64 AA7B",
            "AA7D 1171E 11720-11721"]))
       (.listed ["E33 EB3"])⟩,
   ⟨["t"],
     .listed ["11A8-11FF D7CB-D7FB"]⟩,
   ⟨["v"],
     .listed ["1160-11A7 D7B0-D7C6 16D63 16D67-16D6A"]⟩,
   ⟨["zwj"],
     .listed ["200D"]⟩]

def wordBreaks : List NamedDerivation :=
  [⟨["aletter", "le"],
     .either
       (.without
         (.without
           (.property "alphabetic")
           (.either
             (.either
               (.either
                 (.either
                   (.either
                     (.either
                       (.either
                         (.either
                           (.either
                             (.either
                               (.either
                                 (.either
                                   (.either
                                     (.property "ideographic")
                                     (.property "graphemeextend"))
                                   (.categories ["mc"]))
                                 (.script "hiragana"))
                               (.script "katakana"))
                             (.script "thai"))
                           (.script "lao"))
                         (.script "myanmar"))
                       (.script "khmer"))
                     (.script "taile"))
                   (.script "newtailue"))
                 (.script "taitham"))
               (.script "taiviet"))
             (.script "ahom")))
         (.listed
           ["5D0-5EA 5EF-5F2 3031-3035 30FC FB1D FB1F-FB28 FB2A-FB36 FB38-FB3C FB3E FB40-FB41",
            "FB43-FB44 FB46-FB4F FF70"]))
       (.listed
         ["2C2-2C5 2D2-2D7 2DE-2DF 2E5-2EB 2ED 2EF-2FF 55A-55C 55E 58A 5F3 A708-A716 A720-A721",
          "A789-A78A AB5B"])⟩,
   ⟨["cr"],
     .listed ["D"]⟩,
   ⟨["doublequote", "dq"],
     .listed ["22"]⟩,
   ⟨["extend"],
     .either
       (.either
         (.property "graphemeextend")
         (.categories ["mc"]))
       (.listed ["1F3FB-1F3FF"])⟩,
   ⟨["extendnumlet", "ex"],
     .either
       (.categories ["pc"])
       (.listed ["202F"])⟩,
   ⟨["format", "fo"],
     .listed
       ["AD 600-605 61C 6DD 70F 890-891 8E2 180E 200E-200F 202A-202E 2060-2064 2066-206F FEFF",
        "FFF9-FFFB 110BD 110CD 13430-1343F 1BCA0-1BCA3 1D173-1D17A E0001"]⟩,
   ⟨["hebrewletter", "hl"],
     .listed
       ["5D0-5EA 5EF-5F2 FB1D FB1F-FB28 FB2A-FB36 FB38-FB3C FB3E FB40-FB41 FB43-FB44 FB46-FB4F"]⟩,
   ⟨["katakana", "ka"],
     .listed
       ["3031-3035 309B-309C 30A0-30FA 30FC-30FF 31F0-31FF 32D0-32FE 3300-3357 FF66-FF9D",
        "1AFF0-1AFF3 1AFF5-1AFFB 1AFFD-1AFFE 1B000 1B120-1B122 1B155 1B164-1B167"]⟩,
   ⟨["lf"],
     .listed ["A"]⟩,
   ⟨["midletter", "ml"],
     .listed ["3A B7 387 55F 5F4 2027 FE13 FE55 FF1A"]⟩,
   ⟨["midnum", "mn"],
     .listed ["2C 3B 37E 589 60C-60D 66C 7F8 2044 FE10 FE14 FE50 FE54 FF0C FF1B"]⟩,
   ⟨["midnumlet", "mb"],
     .listed ["2E 2018-2019 2024 FE52 FF07 FF0E"]⟩,
   ⟨["newline", "nl"],
     .listed ["B-C 85 2028-2029"]⟩,
   ⟨["numeric", "nu"],
     .either
       (.categories ["nd"])
       (.listed ["66B"])⟩,
   ⟨["regionalindicator", "ri"],
     .property "regionalindicator"⟩,
   ⟨["singlequote", "sq"],
     .listed ["27"]⟩,
   ⟨["wsegspace"],
     .listed ["20 1680 2000-2006 2008-200A 205F 3000"]⟩,
   ⟨["zwj"],
     .listed ["200D"]⟩]

def sentenceBreaks : List NamedDerivation :=
  [⟨["aterm", "at"],
     .listed ["2E 2024 FE52 FF0E"]⟩,
   ⟨["close", "cl"],
     .either
       (.categories ["ps", "pe", "pi", "pf"])
       (.listed ["22 27 275B-2760 2E00-2E01 2E06-2E08 2E0B 1F676-1F678"])⟩,
   ⟨["cr"],
     .listed ["D"]⟩,
   ⟨["extend", "ex"],
     .either
       (.either
         (.property "graphemeextend")
         (.categories ["mc"]))
       (.listed ["200D"])⟩,
   ⟨["format", "fo"],
     .listed
       ["AD 600-605 61C 6DD 70F 890-891 8E2 180E 200B 200E-200F 202A-202E 2060-2064 2066-206F FEFF",
        "FFF9-FFFB 110BD 110CD 13430-1343F 1BCA0-1BCA3 1D173-1D17A E0001"]⟩,
   ⟨["lf"],
     .listed ["A"]⟩,
   ⟨["lower", "lo"],
     .either
       (.without
         (.without
           (.property "lowercase")
           (.property "graphemeextend"))
         (.listed ["10D0-10FA 10FD-10FF"]))
       (.listed ["295"])⟩,
   ⟨["numeric", "nu"],
     .either
       (.categories ["nd"])
       (.listed ["66B-66C"])⟩,
   ⟨["oletter", "le"],
     .either
       (.without
         (.without
           (.property "alphabetic")
           (.either
             (.either
               (.either
                 (.either
                   (.property "lowercase")
                   (.property "uppercase"))
                 (.categories ["lt"]))
               (.property "graphemeextend"))
             (.categories ["mc"])))
         (.listed ["295"]))
       (.listed ["5F3 10D0-10FA 10FD-10FF 1C90-1CBA 1CBD-1CBF"])⟩,
   ⟨["scontinue", "sc"],
     .listed
       ["2C-2D 3A 55D 60C-60D 7F8 1802 1808 2013-2014 3001 FE10-FE11 FE13 FE31-FE32 FE50-FE51 FE55",
        "FE58 FE63 FF0C-FF0D FF1A FF64"]⟩,
   ⟨["sep", "se"],
     .listed ["85 2028-2029"]⟩,
   ⟨["sp"],
     .listed ["9 B-C 20 A0 1680 2000-200A 202F 205F 3000"]⟩,
   ⟨["sterm", "st"],
     .without
       (.property "sentenceterminal")
       (.listed ["2E 17D4-17D5 2024 2CF9-2CFB FE12 FE15-FE16 FE52 FF0E"])⟩,
   ⟨["upper", "up"],
     .without
       (.either
         (.categories ["lt"])
         (.property "uppercase"))
       (.listed ["1C90-1CBA 1CBD-1CBF"])⟩]

end PolicyGate.Pattern.Unicode
