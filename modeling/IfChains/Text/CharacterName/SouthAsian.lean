/-
**The names of South Asian letters.**

The letters of the scripts of India, Tibet and the lands south-east of them, and of Georgian. The
names of consecutive characters stand together as a table of names has them.
-/

namespace IfChains

namespace CharacterName

/-- The names of South Asian letters. -/
def southAsian : List String := [
  "900 DEVANAGARI SIGN |INVERTED CANDRABINDU|CANDRABINDU|ANUSVARA|VISARGA;904 DEVANAGARI LETTER |
    SHORT A|A|AA|I|II|U|UU|VOCALIC R|VOCALIC L|CANDRA E|SHORT E|E|AI|CANDRA O|SHORT O|O|AU|KA|KHA|
    GA|GHA|NGA|CA|CHA|JA|JHA|NYA|TTA|TTHA|DDA|DDHA|NNA|TA|THA|DA|DHA|NA|NNNA|PA|PHA|BA|BHA|MA|YA|
    RA|RRA|LA|LLA|LLLA|VA|SHA|SSA|SA|HA;93a DEVANAGARI |VOWEL SIGN OE|VOWEL SIGN OOE|SIGN NUKTA|
    SIGN AVAGRAHA;93e DEVANAGARI VOWEL SIGN |AA|I|II|U|UU|VOCALIC R|VOCALIC RR|CANDRA E|SHORT E|E|
    AI|CANDRA O|SHORT O|O|AU;94d DEVANAGARI |SIGN VIRAMA|VOWEL SIGN PRISHTHAMATRA E|VOWEL SIGN AW|
    OM|STRESS SIGN UDATTA|STRESS SIGN ANUDATTA|GRAVE ACCENT|ACUTE ACCENT;
    955 DEVANAGARI VOWEL SIGN |CANDRA LONG E|UE|UUE;958 DEVANAGARI LETTER |QA|KHHA|GHHA|ZA|DDDHA|
    RHA|FA|YYA|VOCALIC RR|VOCALIC LL;962 DEVANAGARI VOWEL SIGN VOCALIC |L|LL;964 DEVANAGARI |
    DANDA|DOUBLE DANDA;966 DEVANAGARI DIGIT |ZERO|ONE|TWO|THREE|FOUR|FIVE|SIX|SEVEN|EIGHT|NINE;
    970 DEVANAGARI |ABBREVIATION SIGN|SIGN HIGH SPACING DOT;972 DEVANAGARI LETTER |CANDRA A|OE|
    OOE|AW|UE|UUE|MARWARI DDA|ZHA|HEAVY YA|GGA|JJA|GLOTTAL STOP|DDDA|BBA;980 BENGALI |ANJI|
    SIGN CANDRABINDU|SIGN ANUSVARA|SIGN VISARGA;985 BENGALI LETTER |A|AA|I|II|U|UU|VOCALIC R|
    VOCALIC L|||E|AI|||O|AU|KA|KHA|GA|GHA|NGA|CA|CHA|JA|JHA|NYA|TTA|TTHA|DDA|DDHA|NNA|TA|THA|DA|
    DHA|NA||PA|PHA|BA|BHA|MA|YA|RA||LA||||SHA|SSA|SA|HA;9bc BENGALI SIGN |NUKTA|AVAGRAHA;
    9be BENGALI VOWEL SIGN |AA|I|II|U|UU|VOCALIC R|VOCALIC RR|||E|AI|||O|AU;9cd BENGALI |
    SIGN VIRAMA|LETTER KHANDA TA|||||||||AU LENGTH MARK;9dc BENGALI LETTER |RRA|RHA||YYA|
    VOCALIC RR|VOCALIC LL;9e2 BENGALI VOWEL SIGN VOCALIC |L|LL;9e6 BENGALI DIGIT |ZERO|ONE|TWO|
    THREE|FOUR|FIVE|SIX|SEVEN|EIGHT|NINE;9f0 BENGALI LETTER RA WITH |MIDDLE DIAGONAL|
    LOWER DIAGONAL;9f2 BENGALI RUPEE |MARK|SIGN;9f4 BENGALI CURRENCY NUMERATOR |ONE|TWO|THREE|
    FOUR|ONE LESS THAN THE DENOMINATOR;9f9 BENGALI |CURRENCY DENOMINATOR SIXTEEN|ISSHAR|
    GANDA MARK|LETTER VEDIC ANUSVARA|ABBREVIATION SIGN|SANDHI MARK;a01 GURMUKHI SIGN |ADAK BINDI|
    BINDI|VISARGA;a05 GURMUKHI LETTER |A|AA|I|II|U|UU|||||EE|AI|||OO|AU|KA|KHA|GA|GHA|NGA|CA|CHA|
    JA|JHA|NYA|TTA|TTHA|DDA|DDHA|NNA|TA|THA|DA|DHA|NA||PA|PHA|BA|BHA|MA|YA|RA||LA|LLA||VA|SHA||SA|
    HA;a3c GURMUKHI SIGN |NUKTA;a3e GURMUKHI VOWEL SIGN |AA|I|II|U|UU|||||EE|AI|||OO|AU;
    a4d GURMUKHI SIGN |VIRAMA||||UDAAT;a59 GURMUKHI LETTER |KHHA|GHHA|ZA|RRA||FA;
    a66 GURMUKHI DIGIT |ZERO|ONE|TWO|THREE|FOUR|FIVE|SIX|SEVEN|EIGHT|NINE;a70 GURMUKHI |TIPPI|
    ADDAK|IRI|URA|EK ONKAR|SIGN YAKASH|ABBREVIATION SIGN;a81 GUJARATI SIGN |CANDRABINDU|ANUSVARA|
    VISARGA;a85 GUJARATI LETTER |A|AA|I|II|U|UU|VOCALIC R|VOCALIC L;a8d GUJARATI |VOWEL CANDRA E||
    LETTER E|LETTER AI|VOWEL CANDRA O;a93 GUJARATI LETTER |O|AU|KA|KHA|GA|GHA|NGA|CA|CHA|JA|JHA|
    NYA|TTA|TTHA|DDA|DDHA|NNA|TA|THA|DA|DHA|NA||PA|PHA|BA|BHA|MA|YA|RA||LA|LLA||VA|SHA|SSA|SA|HA;
    abc GUJARATI SIGN |NUKTA|AVAGRAHA;abe GUJARATI VOWEL SIGN |AA|I|II|U|UU|VOCALIC R|VOCALIC RR|
    CANDRA E||E|AI|CANDRA O||O|AU;acd GUJARATI |SIGN VIRAMA|||OM;ae0 GUJARATI LETTER VOCALIC |RR|
    LL;ae2 GUJARATI VOWEL SIGN VOCALIC |L|LL;ae6 GUJARATI DIGIT |ZERO|ONE|TWO|THREE|FOUR|FIVE|SIX|
    SEVEN|EIGHT|NINE;af0 GUJARATI |ABBREVIATION SIGN|RUPEE SIGN||||||||LETTER ZHA;
    afa GUJARATI SIGN |SUKUN|SHADDA|MADDAH|THREE-DOT NUKTA ABOVE|CIRCLE NUKTA ABOVE|
    TWO-CIRCLE NUKTA ABOVE;b01 ORIYA SIGN |CANDRABINDU|ANUSVARA|VISARGA;b05 ORIYA LETTER |A|AA|I|
    II|U|UU|VOCALIC R|VOCALIC L|||E|AI|||O|AU|KA|KHA|GA|GHA|NGA|CA|CHA|JA|JHA|NYA|TTA|TTHA|DDA|
    DDHA|NNA|TA|THA|DA|DHA|NA||PA|PHA|BA|BHA|MA|YA|RA||LA|LLA||VA|SHA|SSA|SA|HA;b3c ORIYA SIGN |
    NUKTA|AVAGRAHA;b3e ORIYA VOWEL SIGN |AA|I|II|U|UU|VOCALIC R|VOCALIC RR|||E|AI|||O|AU;
    b4d ORIYA |SIGN VIRAMA||||||||SIGN OVERLINE|AI LENGTH MARK|AU LENGTH MARK;b5c ORIYA LETTER |
    RRA|RHA||YYA|VOCALIC RR|VOCALIC LL;b62 ORIYA VOWEL SIGN VOCALIC |L|LL;b66 ORIYA DIGIT |ZERO|
    ONE|TWO|THREE|FOUR|FIVE|SIX|SEVEN|EIGHT|NINE;b70 ORIYA |ISSHAR|LETTER WA;b72 ORIYA FRACTION |
    ONE QUARTER|ONE HALF|THREE QUARTERS|ONE SIXTEENTH|ONE EIGHTH|THREE SIXTEENTHS;b82 TAMIL SIGN |
    ANUSVARA|VISARGA;b85 TAMIL LETTER |A|AA|I|II|U|UU||||E|EE|AI||O|OO|AU|KA||||NGA|CA||JA||NYA|
    TTA||||NNA|TA||||NA|NNNA|PA||||MA|YA|RA|RRA|LA|LLA|LLLA|VA|SHA|SSA|SA|HA;
    bbe TAMIL VOWEL SIGN |AA|I|II|U|UU||||E|EE|AI||O|OO|AU;bcd TAMIL |SIGN VIRAMA|||OM|||||||
    AU LENGTH MARK;be6 TAMIL DIGIT |ZERO|ONE|TWO|THREE|FOUR|FIVE|SIX|SEVEN|EIGHT|NINE;
    bf0 TAMIL NUMBER |TEN|ONE HUNDRED|ONE THOUSAND;bf3 TAMIL |DAY SIGN|MONTH SIGN|YEAR SIGN|
    DEBIT SIGN|CREDIT SIGN|AS ABOVE SIGN|RUPEE SIGN|NUMBER SIGN;c00 TELUGU SIGN |
    COMBINING CANDRABINDU ABOVE|CANDRABINDU|ANUSVARA|VISARGA|COMBINING ANUSVARA ABOVE;
    c05 TELUGU LETTER |A|AA|I|II|U|UU|VOCALIC R|VOCALIC L||E|EE|AI||O|OO|AU|KA|KHA|GA|GHA|NGA|CA|
    CHA|JA|JHA|NYA|TTA|TTHA|DDA|DDHA|NNA|TA|THA|DA|DHA|NA||PA|PHA|BA|BHA|MA|YA|RA|RRA|LA|LLA|LLLA|
    VA|SHA|SSA|SA|HA;c3c TELUGU SIGN |NUKTA|AVAGRAHA;c3e TELUGU VOWEL SIGN |AA|I|II|U|UU|
    VOCALIC R|VOCALIC RR||E|EE|AI||O|OO|AU;c4d TELUGU |SIGN VIRAMA||||||||LENGTH MARK|
    AI LENGTH MARK;c58 TELUGU LETTER |TSA|DZA|RRRA|||NAKAARA POLLU|||VOCALIC RR|VOCALIC LL;
    c62 TELUGU VOWEL SIGN VOCALIC |L|LL;c66 TELUGU DIGIT |ZERO|ONE|TWO|THREE|FOUR|FIVE|SIX|SEVEN|
    EIGHT|NINE;c77 TELUGU SIGN |SIDDHAM;c78 TELUGU FRACTION DIGIT |ZERO FOR ODD POWERS OF FOUR|
    ONE FOR ODD POWERS OF FOUR|TWO FOR ODD POWERS OF FOUR|THREE FOR ODD POWERS OF FOUR|
    ONE FOR EVEN POWERS OF FOUR|TWO FOR EVEN POWERS OF FOUR|THREE FOR EVEN POWERS OF FOUR;
    c7f TELUGU SIGN |TUUMU;c80 KANNADA SIGN |SPACING CANDRABINDU|CANDRABINDU|ANUSVARA|VISARGA|
    SIDDHAM;c85 KANNADA LETTER |A|AA|I|II|U|UU|VOCALIC R|VOCALIC L||E|EE|AI||O|OO|AU|KA|KHA|GA|
    GHA|NGA|CA|CHA|JA|JHA|NYA|TTA|TTHA|DDA|DDHA|NNA|TA|THA|DA|DHA|NA||PA|PHA|BA|BHA|MA|YA|RA|RRA|
    LA|LLA||VA|SHA|SSA|SA|HA;cbc KANNADA SIGN |NUKTA|AVAGRAHA;cbe KANNADA VOWEL SIGN |AA|I|II|U|
    UU|VOCALIC R|VOCALIC RR||E|EE|AI||O|OO|AU;ccd KANNADA |SIGN VIRAMA||||||||LENGTH MARK|
    AI LENGTH MARK;cdd KANNADA LETTER |NAKAARA POLLU|FA||VOCALIC RR|VOCALIC LL;
    ce2 KANNADA VOWEL SIGN VOCALIC |L|LL;ce6 KANNADA DIGIT |ZERO|ONE|TWO|THREE|FOUR|FIVE|SIX|
    SEVEN|EIGHT|NINE;cf1 KANNADA SIGN |JIHVAMULIYA|UPADHMANIYA;d00 MALAYALAM SIGN |
    COMBINING ANUSVARA ABOVE|CANDRABINDU|ANUSVARA|VISARGA;d04 MALAYALAM LETTER |VEDIC ANUSVARA|A|
    AA|I|II|U|UU|VOCALIC R|VOCALIC L||E|EE|AI||O|OO|AU|KA|KHA|GA|GHA|NGA|CA|CHA|JA|JHA|NYA|TTA|
    TTHA|DDA|DDHA|NNA|TA|THA|DA|DHA|NA|NNNA|PA|PHA|BA|BHA|MA|YA|RA|RRA|LA|LLA|LLLA|VA|SHA|SSA|SA|
    HA|TTTA;d3b MALAYALAM SIGN |VERTICAL BAR VIRAMA|CIRCULAR VIRAMA|AVAGRAHA;
    d3e MALAYALAM VOWEL SIGN |AA|I|II|U|UU|VOCALIC R|VOCALIC RR||E|EE|AI||O|OO|AU;d4d MALAYALAM |
    SIGN VIRAMA|LETTER DOT REPH|SIGN PARA;d54 MALAYALAM LETTER CHILLU |M|Y|LLL;
    d57 MALAYALAM AU LENGTH |MARK;d58 MALAYALAM FRACTION |ONE ONE-HUNDRED-AND-SIXTIETH|
    ONE FORTIETH|THREE EIGHTIETHS|ONE TWENTIETH|ONE TENTH|THREE TWENTIETHS|ONE FIFTH;
    d5f MALAYALAM LETTER |ARCHAIC II|VOCALIC RR|VOCALIC LL;d62 MALAYALAM VOWEL SIGN VOCALIC |L|LL;
    d66 MALAYALAM DIGIT |ZERO|ONE|TWO|THREE|FOUR|FIVE|SIX|SEVEN|EIGHT|NINE;d70 MALAYALAM NUMBER |
    TEN|ONE HUNDRED|ONE THOUSAND;d73 MALAYALAM FRACTION |ONE QUARTER|ONE HALF|THREE QUARTERS|
    ONE SIXTEENTH|ONE EIGHTH|THREE SIXTEENTHS;d79 MALAYALAM DATE |MARK;",
  "d7a MALAYALAM LETTER CHILLU |NN|N|RR|L|LL|K;d81 SINHALA SIGN |CANDRABINDU|ANUSVARAYA|
    VISARGAYA;d85 SINHALA LETTER |AYANNA|AAYANNA|AEYANNA|AEEYANNA|IYANNA|IIYANNA|UYANNA|UUYANNA|
    IRUYANNA|IRUUYANNA|ILUYANNA|ILUUYANNA|EYANNA|EEYANNA|AIYANNA|OYANNA|OOYANNA|AUYANNA||||
    ALPAPRAANA KAYANNA|MAHAAPRAANA KAYANNA|ALPAPRAANA GAYANNA|MAHAAPRAANA GAYANNA|
    KANTAJA NAASIKYAYA|SANYAKA GAYANNA|ALPAPRAANA CAYANNA|MAHAAPRAANA CAYANNA|ALPAPRAANA JAYANNA|
    MAHAAPRAANA JAYANNA|TAALUJA NAASIKYAYA|TAALUJA SANYOOGA NAAKSIKYAYA|SANYAKA JAYANNA|
    ALPAPRAANA TTAYANNA|MAHAAPRAANA TTAYANNA|ALPAPRAANA DDAYANNA|MAHAAPRAANA DDAYANNA|
    MUURDHAJA NAYANNA|SANYAKA DDAYANNA|ALPAPRAANA TAYANNA|MAHAAPRAANA TAYANNA|ALPAPRAANA DAYANNA|
    MAHAAPRAANA DAYANNA|DANTAJA NAYANNA||SANYAKA DAYANNA|ALPAPRAANA PAYANNA|MAHAAPRAANA PAYANNA|
    ALPAPRAANA BAYANNA|MAHAAPRAANA BAYANNA|MAYANNA|AMBA BAYANNA|YAYANNA|RAYANNA||DANTAJA LAYANNA||
    |VAYANNA|TAALUJA SAYANNA|MUURDHAJA SAYANNA|DANTAJA SAYANNA|HAYANNA|MUURDHAJA LAYANNA|FAYANNA;
    dca SINHALA SIGN AL-|LAKUNA;dcf SINHALA VOWEL SIGN |AELA-PILLA|KETTI AEDA-PILLA|
    DIGA AEDA-PILLA|KETTI IS-PILLA|DIGA IS-PILLA|KETTI PAA-PILLA||DIGA PAA-PILLA||GAETTA-PILLA|
    KOMBUVA|DIGA KOMBUVA|KOMBU DEKA|KOMBUVA HAA AELA-PILLA|KOMBUVA HAA DIGA AELA-PILLA|
    KOMBUVA HAA GAYANUKITTA|GAYANUKITTA;de6 SINHALA LITH DIGIT |ZERO|ONE|TWO|THREE|FOUR|FIVE|SIX|
    SEVEN|EIGHT|NINE;df2 SINHALA VOWEL SIGN DIGA |GAETTA-PILLA|GAYANUKITTA;
    df4 SINHALA PUNCTUATION |KUNDDALIYA;e01 THAI CHARACTER |KO KAI|KHO KHAI|KHO KHUAT|KHO KHWAI|
    KHO KHON|KHO RAKHANG|NGO NGU|CHO CHAN|CHO CHING|CHO CHANG|SO SO|CHO CHOE|YO YING|DO CHADA|
    TO PATAK|THO THAN|THO NANGMONTHO|THO PHUTHAO|NO NEN|DO DEK|TO TAO|THO THUNG|THO THAHAN|
    THO THONG|NO NU|BO BAIMAI|PO PLA|PHO PHUNG|FO FA|PHO PHAN|FO FAN|PHO SAMPHAO|MO MA|YO YAK|
    RO RUA|RU|LO LING|LU|WO WAEN|SO SALA|SO RUSI|SO SUA|HO HIP|LO CHULA|O ANG|HO NOKHUK|PAIYANNOI|
    SARA A|MAI HAN-AKAT;e32 THAI CHARACTER SARA |AA|AM|I|II|UE|UEE|U|UU;e3a THAI |
    CHARACTER PHINTHU|||||CURRENCY SYMBOL BAHT;e40 THAI CHARACTER |SARA E|SARA AE|SARA O|
    SARA AI MAIMUAN|SARA AI MAIMALAI|LAKKHANGYAO|MAIYAMOK|MAITAIKHU|MAI EK|MAI THO|MAI TRI|
    MAI CHATTAWA|THANTHAKHAT|NIKHAHIT|YAMAKKAN|FONGMAN;e50 THAI DIGIT |ZERO|ONE|TWO|THREE|FOUR|
    FIVE|SIX|SEVEN|EIGHT|NINE;e5a THAI CHARACTER |ANGKHANKHU|KHOMUT;e81 LAO LETTER |KO|KHO SUNG||
    KHO TAM||PALI GHA|NGO|CO|PALI CHA|SO TAM||PALI JHA|NYO|PALI NYA|PALI TTA|PALI TTHA|PALI DDA|
    PALI DDHA|PALI NNA|DO|TO|THO SUNG|THO TAM|PALI DHA|NO|BO|PO|PHO SUNG|FO TAM|PHO TAM|FO SUNG|
    PALI BHA|MO|YO|LO LING||LO LOOT||WO|SANSKRIT SHA|SANSKRIT SSA|SO SUNG|HO SUNG|PALI LLA|O|
    HO TAM;eaf LAO |ELLIPSIS;eb0 LAO VOWEL SIGN |A|MAI KAN|AA|AM|I|II|Y|YY|U|UU;eba LAO |
    SIGN PALI VIRAMA|VOWEL SIGN MAI KON;ebc LAO SEMIVOWEL SIGN |LO|NYO;ec0 LAO VOWEL SIGN |E|EI|O|
    AY|AI;ec6 LAO KO |LA;ec8 LAO TONE MAI |EK|THO|TI|CATAWA;ecc LAO |CANCELLATION MARK|NIGGAHITA;
    ed0 LAO DIGIT |ZERO|ONE|TWO|THREE|FOUR|FIVE|SIX|SEVEN|EIGHT|NINE;edc LAO HO |NO|MO;
    ede LAO LETTER KHMU |GO|NYO;f00 TIBETAN SYLLABLE |OM;f01 TIBETAN MARK GTER YIG MGO |
    TRUNCATED A|-UM RNAM BCAD MA|-UM GTER TSHEG MA;f04 TIBETAN MARK |INITIAL YIG MGO MDUN MA|
    CLOSING YIG MGO SGAB MA|CARET YIG MGO PHUR SHAD MA|YIG MGO TSHEG SHAD MA|SBRUL SHAD|
    BSKUR YIG MGO|BKA- SHOG YIG MGO|INTERSYLLABIC TSHEG|DELIMITER TSHEG BSTAR|SHAD|NYIS SHAD|
    TSHEG SHAD|NYIS TSHEG SHAD|RIN CHEN SPUNGS SHAD|RGYA GRAM SHAD|CARET -DZUD RTAGS ME LONG CAN|
    GTER TSHEG;f15 TIBETAN LOGOTYPE SIGN |CHAD RTAGS|LHAG RTAGS;f17 TIBETAN ASTROLOGICAL SIGN |
    SGRA GCAN -CHAR RTAGS|-KHYUD PA|SDONG TSHUGS;f1a TIBETAN SIGN RDEL |DKAR GCIG|DKAR GNYIS|
    DKAR GSUM|NAG GCIG|NAG GNYIS|DKAR RDEL NAG;f20 TIBETAN DIGIT |ZERO|ONE|TWO|THREE|FOUR|FIVE|
    SIX|SEVEN|EIGHT|NINE;f2a TIBETAN DIGIT HALF |ONE|TWO|THREE|FOUR|FIVE|SIX|SEVEN|EIGHT|NINE|
    ZERO;f34 TIBETAN MARK |BSDUS RTAGS|NGAS BZUNG NYI ZLA|CARET -DZUD RTAGS BZHI MIG CAN|
    NGAS BZUNG SGOR RTAGS|CHE MGO|TSA -PHRU|GUG RTAGS GYON|GUG RTAGS GYAS|ANG KHANG GYON|
    ANG KHANG GYAS;f3e TIBETAN SIGN |YAR TSHES|MAR TSHES;f40 TIBETAN LETTER |KA|KHA|GA|GHA|NGA|CA|
    CHA|JA||NYA|TTA|TTHA|DDA|DDHA|NNA|TA|THA|DA|DHA|NA|PA|PHA|BA|BHA|MA|TSA|TSHA|DZA|DZHA|WA|ZHA|
    ZA|-A|YA|RA|LA|SHA|SSA|SA|HA|A|KSSA|FIXED-FORM RA|KKA|RRA;f71 TIBETAN VOWEL SIGN |AA|I|II|U|
    UU|VOCALIC R|VOCALIC RR|VOCALIC L|VOCALIC LL|E|EE|O|OO;f7e TIBETAN |SIGN RJES SU NGA RO|
    SIGN RNAM BCAD|VOWEL SIGN REVERSED I|VOWEL SIGN REVERSED II|SIGN NYI ZLA NAA DA|SIGN SNA LDAN|
    MARK HALANTA|MARK PALUTA;f86 TIBETAN SIGN |LCI RTAGS|YANG RTAGS|LCE TSA CAN|MCHU CAN|
    GRU CAN RGYINGS|GRU MED RGYINGS|INVERTED MCHU CAN;f8d TIBETAN SUBJOINED SIGN |LCE TSA CAN|
    MCHU CAN|INVERTED MCHU CAN;f90 TIBETAN SUBJOINED LETTER |KA|KHA|GA|GHA|NGA|CA|CHA|JA||NYA|TTA|
    TTHA|DDA|DDHA|NNA|TA|THA|DA|DHA|NA|PA|PHA|BA|BHA|MA|TSA|TSHA|DZA|DZHA|WA|ZHA|ZA|-A|YA|RA|LA|
    SHA|SSA|SA|HA|A|KSSA|FIXED-FORM WA|FIXED-FORM YA|FIXED-FORM RA;fbe TIBETAN KU RU |KHA|
    KHA BZHI MIG CAN;fc0 TIBETAN CANTILLATION SIGN |HEAVY BEAT|LIGHT BEAT|CANG TE-U|SBUB -CHAL;
    fc4 TIBETAN SYMBOL |DRIL BU|RDO RJE|PADMA GDAN|RDO RJE RGYA GRAM|PHUR PA|NOR BU|
    NOR BU NYIS -KHYIL|NOR BU GSUM -KHYIL|NOR BU BZHI -KHYIL;fce TIBETAN SIGN RDEL NAG |RDEL DKAR|
    GSUM;fd0 TIBETAN MARK |BSKA- SHOG GI MGO RGYAN|MNYAM YIG GI MGO RGYAN|NYIS TSHEG|
    INITIAL BRDA RNYING YIG MGO MDUN MA|CLOSING BRDA RNYING YIG MGO SGAB MA;fd5 |
    RIGHT-FACING SVASTI SIGN|LEFT-FACING SVASTI SIGN|RIGHT-FACING SVASTI SIGN WITH DOTS|
    LEFT-FACING SVASTI SIGN WITH DOTS;fd9 TIBETAN MARK |LEADING MCHAN RTAGS|TRAILING MCHAN RTAGS;
    1000 MYANMAR LETTER |KA|KHA|GA|GHA|NGA|CA|CHA|JA|JHA|NYA|NNYA|TTA|TTHA|DDA|DDHA|NNA|TA|THA|DA|
    DHA|NA|PA|PHA|BA|BHA|MA|YA|RA|LA|WA|SA|HA|LLA|A|SHAN A|I|II|U|UU|E|MON E|O|AU;
    102b MYANMAR VOWEL SIGN |TALL AA|AA|I|II|U|UU|E|AI|MON II|MON O|E ABOVE;1036 MYANMAR SIGN |
    ANUSVARA|DOT BELOW|VISARGA|VIRAMA|ASAT;103b MYANMAR CONSONANT SIGN MEDIAL |YA|RA|WA|HA;
    103f MYANMAR LETTER GREAT |SA;1040 MYANMAR DIGIT |ZERO|ONE|TWO|THREE|FOUR|FIVE|SIX|SEVEN|
    EIGHT|NINE;104a MYANMAR SIGN |LITTLE SECTION|SECTION;104c MYANMAR SYMBOL |LOCATIVE|COMPLETED|
    AFOREMENTIONED|GENITIVE;1050 MYANMAR LETTER |SHA|SSA;1052 MYANMAR LETTER VOCALIC |R|RR|L|LL;
    1056 MYANMAR VOWEL SIGN VOCALIC |R|RR|L|LL;105a MYANMAR LETTER MON |NGA|JHA|BBA|BBE;
    105e MYANMAR CONSONANT SIGN MON MEDIAL |NA|MA|LA;1061 MYANMAR |LETTER SGAW KAREN SHA|
    VOWEL SIGN SGAW KAREN EU;1063 MYANMAR TONE MARK SGAW KAREN |HATHI|KE PHO;
    1065 MYANMAR LETTER WESTERN PWO KAREN |THA|PWA;1067 MYANMAR VOWEL SIGN WESTERN PWO KAREN |EU|
    UE;1069 MYANMAR SIGN WESTERN PWO KAREN TONE-|1|2|3|4|5;106e MYANMAR LETTER EASTERN PWO KAREN |
    NNA|YWA|GHWA;1071 MYANMAR VOWEL SIGN |GEBA KAREN I|KAYAH OE|KAYAH U|KAYAH EE;
    1075 MYANMAR LETTER SHAN |KA|KHA|GA|CA|ZA|NYA|DA|NA|PHA|FA|BA|THA|HA;
    1082 MYANMAR CONSONANT SIGN SHAN MEDIAL |WA;1083 MYANMAR VOWEL SIGN SHAN |AA|E|E ABOVE|
    FINAL Y;1087 MYANMAR SIGN SHAN TONE-|2|3|5|6;108b MYANMAR SIGN SHAN COUNCIL |TONE-2|TONE-3|
    EMPHATIC TONE;108e MYANMAR |LETTER RUMAI PALAUNG FA|SIGN RUMAI PALAUNG TONE-5;
    1090 MYANMAR SHAN DIGIT |ZERO|ONE|TWO|THREE|FOUR|FIVE|SIX|SEVEN|EIGHT|NINE;
    109a MYANMAR SIGN KHAMTI TONE-|1|3;109c MYANMAR VOWEL SIGN AITON |A|AI;",
  "109e MYANMAR SYMBOL SHAN |ONE|EXCLAMATION;10a0 GEORGIAN CAPITAL LETTER |AN|BAN|GAN|DON|EN|VIN|
    ZEN|TAN|IN|KAN|LAS|MAN|NAR|ON|PAR|ZHAR|RAE|SAN|TAR|UN|PHAR|KHAR|GHAN|QAR|SHIN|CHIN|CAN|JIL|
    CIL|CHAR|XAN|JHAN|HAE|HE|HIE|WE|HAR|HOE||YN||||||AEN;10d0 GEORGIAN LETTER |AN|BAN|GAN|DON|EN|
    VIN|ZEN|TAN|IN|KAN|LAS|MAN|NAR|ON|PAR|ZHAR|RAE|SAN|TAR|UN|PHAR|KHAR|GHAN|QAR|SHIN|CHIN|CAN|
    JIL|CIL|CHAR|XAN|JHAN|HAE|HE|HIE|WE|HAR|HOE|FI|YN|ELIFI|TURNED GAN|AIN;10fb |
    GEORGIAN PARAGRAPH SEPARATOR|MODIFIER LETTER GEORGIAN NAR;10fd GEORGIAN LETTER |AEN|HARD SIGN|
    LABIAL SIGN;"]

end CharacterName

end IfChains
