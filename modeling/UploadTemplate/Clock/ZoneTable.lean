/-!
# Time zones

The zones of the IANA database, each with all its names. After the names come the offsets from
universal time in seconds, the first of which holds before all changes; the changes, each as the
distance in time to the one before and the letter of the new offset; and the rule for the years
after the last change: its first year, the two offsets, and month, week, weekday and time of day
of the change to the second offset and of the change back.

Distances are numbers in base thirty-six, in half hours or, after a point, in seconds.
-/

namespace UploadTemplate.Clock

def zoneTableA : List (String × String) := [
  ("Africa/Abidjan Africa/Accra Africa/Bamako Africa/Banjul Africa/Conakry Africa/Dakar Afric" ++
   "a/Freetown Africa/Lome Africa/Nouakchott Africa/Ouagadougou Africa/Timbuktu Atlantic/Reyk" ++
   "javik Atlantic/St_Helena Iceland",
   "-968 0;.zvqf60B;"),
  ("Africa/Algiers",
   "732 561 0 3600 7200;.p11kisB.afgo4rC.2qx1nlD41cC6g0D7aoC5o0D7tcC5eoD82oC4w0D9c0C59cD3o0C6" ++
    "uioD2iqC3msD1jimE6ymD6iqE66kDeaoC3hyqD2phaC30o0D5pcC23uqDbxcE6qqDerwC6qqD702C6qmD;"),
  ("Africa/Bissau",
   "-3740 -3600 0;.zvqh74Bno9cC;"),
  ("Africa/Cairo Egypt",
   "7509 7200 10800;.u0czajB.krj48lC2vyB79eC5paB7aqC7qmB5s2C7xaB5mqC7xaB65eC7daB4buqC5byB7uqC" ++
    "5nyB7usC5mqB7xaC5mqB7vyC5mqB7vyC5mqB7vyC5mqB7xaC5mqB7vyC5mqB7vyC5o2B7umC5o2B7vyC5o2B7umC" ++
    "5o2B7umC5o2B7umC5o2B7vyC5o2B7umC5o2B7umC5o2B7umC5o2B7vyC5o2B7umC5o2B7umC5o2B7umC5o2B7vyC" ++
    "5o2B7umC5o2BazyC2iqBaimC302B7vyC5o2B7umC5o2B7umC5o2B7umC5o2B7vyC5o2B81aC5heB7umC5o2B7umC" ++
    "5o2B7vyC5o2B7umC5o2B7umC5o2B7qkC5paB7s2C5paB7s2C5paB7s2C5paB81eC5paB7s2C5paB7s2C5paB7s2C" ++
    "5paB7s2C5paB81eC5paB7s2C5paB7s2C5fyB81eC4xaB8k2C4nyB8teC4emB9c2C3taB142CryB1d02C1jyB1aqC" ++
    "22mB;2023 7200 10800 4 5 5 0 10 5 4 86400"),
  ("Africa/Casablanca",
   "-1820 0 3600;.10tw2hoB.di7nxgC2imB3mqC25imB1ppeC56mB68i2C4faB2j1eC2jyBmiqC3emBa42C5jyB942" ++
    "C2daB23yqCoamB8f82C3emBa42C2zyB9eqC3mmB8teC4emBa46C31cB15cC1ioB7s0C2lcB19cC2w0B5pcC3c0B1" ++
    "aoC35cB5pcC2uoB1aoC3moB5pcC2lcB1aoC45cB5g0C22oB1k0C4eoB5g0C1tcB1aoCbxcB1aoCbo0B1k0Cbo0B1" ++
    "aoCbo0B1k0Cbo0B1aoCbxcB1aoCbo0B1k0Cbo0B1aoCbxcB1aoCbo0B1k0Cbo0B1aoCbo0B1k0Cbo0B1aoCbxcB1" ++
    "aoCbo0B1k0Cbo0B1aoCbo0B1k0Cbo0B1k0Cbo0B1aoCbo0B1k0Cbo0B1aoCbxcB1aoCbo0B1k0Cbo0B1aoCbo0B1" ++
    "k0Cbo0B1k0Cbo0B1aoCbo0B1k0Cbo0B1aoCbxcB1aoCbo0B1k0Cbo0B1aoCbo0B1k0Cbo0B1k0Cbo0B1aoCbo0B1" ++
    "k0Cbo0B1aoCbxcB1aoCbo0B1k0Cbo0B1aoCbo0B1k0Cbo0B1k0Cbo0B1aoCbo0B1k0Cbo0B1aoCbxcB1aoCbo0B1" ++
    "k0Cbo0B1aoCbo0B1k0Cbo0B1k0Cbo0B1aoCbo0B1k0Cbo0B1aoCbxcB1aoCbo0B1k0Cbo0B1aoCbo0B1k0Cbo0B1" ++
    "k0Cbo0B1aoCbo0B1k0Cbo0B1aoCbxcB1aoCbo0B1k0Cbo0B1aoCbo0B1k0Cbo0B1aoCbxcB1aoCbo0B1k0Cbo0B1" ++
    "aoCbxcB1aoCbo0B1k0C;"),
  ("Africa/Ceuta",
   "-1276 0 3600 7200;.u53if4B6immC5paB22qqC6c2BkqmC682B6zyC6heB79cC6hcBeiwoC4faB2j1eC2jyBmiq" ++
    "C3emBa42C5jyB942C2daB23yqCrk2D6qoC6qoD6qoC6qoD6qoC6qoD6qoC6qoD700C6qoD6qoC6qoD6qoC6qoD6q" ++
    "oC6qoD6qoC6qoD6qoC;1996 3600 7200 3 5 0 7200 10 5 0 10800"),
  ("Africa/El_Aaiun",
   "-3168 -3600 0 3600;.1bd3y74B.m2g0c0CmmD3emCa42D5jyC942D2daCb7heD3emCa42D2zyC9eqD3mmC8teD4" ++
    "emCa46D31cC15cD1ioC7s0D2lcC19cD2w0C5pcD3c0C1aoD35cC5pcD2uoC1aoD3moC5pcD2lcC1aoD45cC5g0D2" ++
    "2oC1k0D4eoC5g0D1tcC1aoDbxcC1aoDbo0C1k0Dbo0C1aoDbo0C1k0Dbo0C1aoDbxcC1aoDbo0C1k0Dbo0C1aoDb" ++
    "xcC1aoDbo0C1k0Dbo0C1aoDbo0C1k0Dbo0C1aoDbxcC1aoDbo0C1k0Dbo0C1aoDbo0C1k0Dbo0C1k0Dbo0C1aoDb" ++
    "o0C1k0Dbo0C1aoDbxcC1aoDbo0C1k0Dbo0C1aoDbo0C1k0Dbo0C1k0Dbo0C1aoDbo0C1k0Dbo0C1aoDbxcC1aoDb" ++
    "o0C1k0Dbo0C1aoDbo0C1k0Dbo0C1k0Dbo0C1aoDbo0C1k0Dbo0C1aoDbxcC1aoDbo0C1k0Dbo0C1aoDbo0C1k0Db" ++
    "o0C1k0Dbo0C1aoDbo0C1k0Dbo0C1aoDbxcC1aoDbo0C1k0Dbo0C1aoDbo0C1k0Dbo0C1k0Dbo0C1aoDbo0C1k0Db" ++
    "o0C1aoDbxcC1aoDbo0C1k0Dbo0C1aoDbo0C1k0Dbo0C1k0Dbo0C1aoDbo0C1k0Dbo0C1aoDbxcC1aoDbo0C1k0Db" ++
    "o0C1aoDbo0C1k0Dbo0C1aoDbxcC1aoDbo0C1k0Dbo0C1aoDbxcC1aoDbo0C1k0D;"),
  ("Africa/Johannesburg Africa/Maseru Africa/Mbabane",
   "6720 5400 7200 10800;.phyp8gB.5rpt0oCev43D6qmC6qqD6qmC;"),
  ("Africa/Juba",
   "7588 7200 10800;.19sq38cB.kixuysC66mB7aqC67yB7c2C67yB79eC69aB782C6amB76qC6byB75eC6emB72qC" ++
    "6fyB7aqC67yB79eC69aB782C6byB75eC6daB742C6emB72qC6fyB7aqC69aB782C6amB5csqC7wpyB;"),
  ("Africa/Khartoum",
   "7808 7200 10800;.19sq328B.kixv4wC66mB7aqC67yB7c2C67yB79eC69aB782C6amB76qC6byB75eC6emB72qC" ++
    "6fyB7aqC67yB79eC69aB782C6byB75eC6daB742C6emB72qC6fyB7aqC69aB782C6amB5csqC6opyB;"),
  ("Africa/Bangui Africa/Brazzaville Africa/Douala Africa/Kinshasa Africa/Lagos Africa/Librev" ++
   "ille Africa/Luanda Africa/Malabo Africa/Niamey Africa/Porto-Novo",
   "815 0 1800 3600;.whk8ghB.1kdnanA.2ve7ddC.2yfgknD;"),
  ("Africa/Blantyre Africa/Bujumbura Africa/Gaborone Africa/Harare Africa/Kigali Africa/Lubum" ++
   "bashi Africa/Lusaka Africa/Maputo",
   "7818 7200;.ybegdyB;"),
  ("Africa/Monrovia",
   "-2588 -2670 0;.13mawf0B.rl202aC;"),
  ("Africa/Addis_Ababa Africa/Asmara Africa/Asmera Africa/Dar_es_Salaam Africa/Djibouti Afric" ++
   "a/Kampala Africa/Mogadishu Africa/Nairobi Indian/Antananarivo Indian/Comoro Indian/Mayott" ++
   "e",
   "8836 9000 10800 9900;.xysq9oB.aiwqjgCkhbB2mk1D.2wu1z0C;"),
  ("Africa/Ndjamena",
   "3612 3600 7200;.zvqbmsB.zdk5ccC5emB;"),
  ("Africa/Sao_Tome",
   "1616 -2205 0 3600;.l9pbu8B.em12kwC13tyqDdioC;"),
  ("Africa/Tripoli Libya",
   "3164 3600 7200;.1421fz8B.gl6ajwC2x6BnyuC33uBnleC3fyB14leC8n5aB3c2C6ryB6qqC6ryB6s2C6ryB6xe" ++
    "C6laB6uqC6qmB6o2C6ryB6s2C6ryB6qqC6ryB7yqC2epaB6w2C5v2qB55cC;"),
  ("Africa/Tunis",
   "2444 561 3600 7200;.jw44j8B.fke44bC.enxevlD81cC3o0Dls0C5peD8tgC5g0DpaCaqD5zyC6qqD6yiC6iuD" ++
    "66iCbvqqD5g0C840D5o0C3ms0D4aoC6qoD6qoC840D5moC5haoD5mqC6k2D81cC5g0D81cC5pcD7s0C;"),
  ("Africa/Windhoek",
   "4104 5400 7200 10800 3600;.phyr94B.5rpr00Cev43D6qmCj5xaE66uC7ryE5peC81aE5g2C81aE5peC7ryE5" ++
    "peC7ryE5peC7ryE5peC7ryE5peC81aE5g2C81aE5peC7ryE5peC7ryE5peC7ryE5peC7ryE5peC81aE5peC7ryE5" ++
    "peC7ryE5peC7ryE5peC7ryE5peC81aE5g2C81aE5peC7ryE5peC7ryE5peC7ryE5peC;"),
  ("America/Adak America/Atka US/Aleutian",
   "44002 -42398 -39600 -36000 -32400;.cta575B.h4z1xpC.ln70qaD1d7yC8uw2D6qmC6qqD6qmC6qqD6zyC6" ++
    "qqD6qmC6qqD6qmC2leDavyC4eqD92mC6qqD6zyC6heD6zyC6qqD6qmC6qqD6qmC6qqD6qmC6qqD6qmC6qqD6zyC6" ++
    "heDdqmE6qmD6qqE6qmD6qqE6qmD5yqE7imD5yqE7ryD5peE7ryD5peE7ryD5yqE7imD5yqE7imD5yqE7ryD5peE7" ++
    "ryD5peE7ryD5yqE7imD5yqE7imD5yqE7imD5yqE7ryD5peE7ryD5peE7ryD5yqE7imD5yqE7imD5yqE7ryD5peE7" ++
    "ryD5peE7ryD;2007 -36000 -32400 3 2 0 7200 11 1 0 7200"),
  ("America/Anchorage US/Alaska",
   "50424 -35976 -36000 -32400 -28800;.cta575B.h4ywzbC.ln72woD1d7yC8uw2D6qmC6qqD6qmC6qqD6zyC6" ++
    "qqD6qmC6qqD6qmC2leDavyC4eqD92mC6qqD6zyC6heD6zyC6qqD6qmC6qqD6qmC6qqD6qmC6qqD6qmC6qqD6zyC6" ++
    "heDdqmE6qmD6qqE6qmD6qqE6qmD5yqE7imD5yqE7ryD5peE7ryD5peE7ryD5yqE7imD5yqE7imD5yqE7ryD5peE7" ++
    "ryD5peE7ryD5yqE7imD5yqE7imD5yqE7imD5yqE7ryD5peE7ryD5peE7ryD5yqE7imD5yqE7imD5yqE7ryD5peE7" ++
    "ryD5peE7ryD;2007 -32400 -28800 3 2 0 7200 11 1 0 7200"),
  ("America/Araguaina",
   "-11568 -10800 -7200;.10xccogB.99k8moC6ooB6uqC6nyB69heC51cB8hcC4haB91eC4imB91eC3byB41qqC32" ++
    "mBcg2C26mB92qC3byB92qC4fyB92qC4haB6n2qC4xaB8aqC45aB9deC3vyB9c2C3vyB9leC4emB24qqC4emB8teC" ++
    "4xaB8leC5emB8aqC4xaB8aqC5fyB8aqC4xaB8teC4nyB9leC3vyB3mxeC4emB;"),
  ("America/Argentina/Buenos_Aires America/Buenos_Aires",
   "-14028 -15408 -14400 -10800 -7200;.qx7l8sB.db2bqcC.5iv8k0D4haC7aqD53yC92qD4fyC92qD4fyC92q" ++
    "D4fyC92qD4haC92qD4fyC92qD4fyC92qD4fyC92qD4haC4iqDcxaC4iqDo9aC2s2Dw5aC7xeD6dymC2s2D2umC8g" ++
    "2D52mC8g2D52mC8g2D69aC6qqD6zyC6qqD6qmC6qqD1m6mE3mmD5hc2E3haD8aqE56mD8k2E4xaD8k2E4xaD8k2E" ++
    "56mD5keqE2umD81eE5fyD;"),
  ("America/Argentina/Catamarca America/Argentina/ComodRivadavia America/Catamarca",
   "-15788 -15408 -14400 -10800 -7200;.qx7mloB.db2adgC.5iv8k0D4haC7aqD53yC92qD4fyC92qD4fyC92q" ++
    "D4fyC92qD4haC92qD4fyC92qD4fyC92qD4fyC92qD4haC4iqDcxaC4iqDo9aC2s2Dw5aC7xeD6dymC2s2D2umC8g" ++
    "2D52mC8g2D52mC8g2D69aC6qqD6zyC6qqD6qmC6qqD1m6mE3mmD5hc2E3haD8aqE56mD8k2E4xaC8k4E4x8D8k2E" ++
    "56mD4802CpeD1bpaE2umD;"),
  ("America/Argentina/Cordoba America/Cordoba America/Rosario",
   "-15408 -14400 -10800 -7200;.1489wz4B.5iv8k0C4haB7aqC53yB92qC4fyB92qC4fyB92qC4fyB92qC4haB9" ++
    "2qC4fyB92qC4fyB92qC4fyB92qC4haB4iqCcxaB4iqCo9aB2s2Cw5aB7xeC6dymB2s2C2umB8g2C52mB8g2C52mB" ++
    "8g2C69aB6qqC6zyB6qqC6qmB6qqC1m6mD3mmC5hc2D3haC8aqD56mC8k2D4xaB8k4D4x8C8k2D56mC5keqD2umC8" ++
    "1eD5fyC;"),
  ("America/Argentina/Jujuy America/Jujuy",
   "-15672 -15408 -14400 -10800 -7200;.qx7migB.db2agoC.5iv8k0D4haC7aqD53yC92qD4fyC92qD4fyC92q" ++
    "D4fyC92qD4haC92qD4fyC92qD4fyC92qD4fyC92qD4haC4iqDcxaC4iqDo9aC2s2Dw5aC7xeD6dymC2s2D2umC8g" ++
    "2D52mC8g2D52mC8g2D69aC6qqD6zyC6qqD6qmC6qqD1m6mE3mmD5hc2E3haD8aqE56mC8tgD56mC7iqE5fwD8k2E" ++
    "56mD5keqE2umD;"),
  ("America/Argentina/La_Rioja",
   "-16044 -15408 -14400 -10800 -7200;.qx7mssB.db2a6cC.5iv8k0D4haC7aqD53yC92qD4fyC92qD4fyC92q" ++
    "D4fyC92qD4haC92qD4fyC92qD4fyC92qD4fyC92qD4haC4iqDcxaC4iqDo9aC2s2Dw5aC7xeD6dymC2s2D2umC8g" ++
    "2D52mC8g2D52mC8g2D69aC6qqD6zyC6qqD6qmC6qqD1m6mE3mmD5hc2E3haD8aqE56mD8k2E4umC2hgD65aE4xaD" ++
    "8k2E56mD4802CpeD1bpaE2umD;"),
  ("America/Argentina/Mendoza America/Mendoza",
   "-16516 -15408 -14400 -10800 -7200;.qx7n5wB.db29t8C.5iv8k0D4haC7aqD53yC92qD4fyC92qD4fyC92q" ++
    "D4fyC92qD4haC92qD4fyC92qD4fyC92qD4fyC92qD4haC4iqDcxaC4iqDo9aC2s2Dw5aC7xeD6dymC2s2D2umC8g" ++
    "2D52mC8g2D52mC8g2D69aC6qqD6zyC6qqD6qmC6qqD1m6mE3mmD5hc2E3haD8aqE56mC8c4D52mC8g2D53yC8k2E" ++
    "56kD47o2C4o2D182mE2umD;"),
  ("America/Argentina/Rio_Gallegos",
   "-16612 -15408 -14400 -10800 -7200;.qx7n8kB.db29qkC.5iv8k0D4haC7aqD53yC92qD4fyC92qD4fyC92q" ++
    "D4fyC92qD4haC92qD4fyC92qD4fyC92qD4fyC92qD4haC4iqDcxaC4iqDo9aC2s2Dw5aC7xeD6dymC2s2D2umC8g" ++
    "2D52mC8g2D52mC8g2D69aC6qqD6zyC6qqD6qmC6qqD1m6mE3mmD5hc2E3haD8aqE56mD8k2E4xaD8k2E4xaD8k2E" ++
    "56mD4802CpeD1bpaE2umD;"),
  ("America/Argentina/Salta",
   "-15700 -15408 -14400 -10800 -7200;.qx7mj8B.db2afwC.5iv8k0D4haC7aqD53yC92qD4fyC92qD4fyC92q" ++
    "D4fyC92qD4haC92qD4fyC92qD4fyC92qD4fyC92qD4haC4iqDcxaC4iqDo9aC2s2Dw5aC7xeD6dymC2s2D2umC8g" ++
    "2D52mC8g2D52mC8g2D69aC6qqD6zyC6qqD6qmC6qqD1m6mE3mmD5hc2E3haD8aqE56mD8k2E4xaC8k4E4x8D8k2E" ++
    "56mD5keqE2umD;"),
  ("America/Argentina/San_Juan",
   "-16444 -15408 -14400 -10800 -7200;.qx7n3wB.db29v8C.5iv8k0D4haC7aqD53yC92qD4fyC92qD4fyC92q" ++
    "D4fyC92qD4haC92qD4fyC92qD4fyC92qD4fyC92qD4haC4iqDcxaC4iqDo9aC2s2Dw5aC7xeD6dymC2s2D2umC8g" ++
    "2D52mC8g2D52mC8g2D69aC6qqD6zyC6qqD6qmC6qqD1m6mE3mmD5hc2E3haD8aqE56mD8k2E4umC2hgD65aE4xaD" ++
    "8k2E56mD47yqC21eD1aemE2umD;"),
  ("America/Argentina/San_Luis",
   "-15924 -15408 -14400 -10800 -7200;.qx7mpgB.db2a9oC.5iv8k0D4haC7aqD53yC92qD4fyC92qD4fyC92q" ++
    "D4fyC92qD4haC92qD4fyC92qD4fyC92qD4fyC92qD4haC4iqDcxaC4iqDo9aC2s2Dw5aC7xeD6dymC2s2D2umC8g" ++
    "2D52mC8g2D52mC8g2D69aC6qqD6zyC6qqD6qmC6qqD1m6mE3mmD5hc2E3haD8aqE5jyC7ysD52mC3eqD4vumC21e" ++
    "D1aemEtaD1s2C81eD5fyC81eD;"),
  ("America/Argentina/Tucuman",
   "-15652 -15408 -14400 -10800 -7200;.qx7mhwB.db2ah8C.5iv8k0D4haC7aqD53yC92qD4fyC92qD4fyC92q" ++
    "D4fyC92qD4haC92qD4fyC92qD4fyC92qD4fyC92qD4haC4iqDcxaC4iqDo9aC2s2Dw5aC7xeD6dymC2s2D2umC8g" ++
    "2D52mC8g2D52mC8g2D69aC6qqD6zyC6qqD6qmC6qqD1m6mE3mmD5hc2E3haD8aqE56mD8k2E4xaC8k4E4x8D8k2E" ++
    "56mD4802Cg2D1bymE2umD81eE5fyD;"),
  ("America/Argentina/Ushuaia",
   "-16392 -15408 -14400 -10800 -7200;.qx7n2gB.db29woC.5iv8k0D4haC7aqD53yC92qD4fyC92qD4fyC92q" ++
    "D4fyC92qD4haC92qD4fyC92qD4fyC92qD4fyC92qD4haC4iqDcxaC4iqDo9aC2s2Dw5aC7xeD6dymC2s2D2umC8g" ++
    "2D52mC8g2D52mC8g2D69aC6qqD6zyC6qqD6qmC6qqD1m6mE3mmD5hc2E3haD8aqE56mD8k2E4xaD8k2E4xaD8k2E" ++
    "56mD47xeCs2D1bpaE2umD;"),
  ("America/Asuncion",
   "-13840 -14400 -10800;.1a78rrkB.ldwofkCk9aBkaqC5mmB7xeC5laB7xeC5laB7xeC6qmB6s2C6ryB6s2C6qm" ++
    "B6s2C6qmB6s2C6qmB6s2C6ryB6s2C6qmB6s2C6qmB6s2C6qmB6s2C6ryB6s2C6qmB7k2C5ymB6s2C6qmB6yqC5fy" ++
    "B82qC6jyB6teC5imB802C5haB81eC5mmB842C56mB8aqC5fyB81eC5paB7s2C5paB7s2C5paB81eC6qmB5g2C81a" ++
    "B5peC7ryB79eC5fyB81eC5fyB81eC5fyB8aqC56mB8aqC56mB8aqC6haB6heC6zyB6heC6zyB6qqC67yB79eC67y" ++
    "B79eC67yB79eC6haB702C6haB702C6haB79eC67yB79eC67yB79eC6haB702C6haB702C6haB702C6haB79eC;"),
  ("America/Bahia",
   "-9244 -10800 -7200;.10xcavwB.99kaf8C6ooB6uqC6nyB69heC51cB8hcC4haB91eC4imB91eC3byB41qqC32m" ++
    "Bcg2C26mB92qC3byB92qC4fyB92qC4haB6n2qC4xaB8aqC45aB9deC3vyB9c2C3vyB9leC4emB9c2C4emB92qC45" ++
    "aB9leC3mmB9leC4nyB8teC4nyB8teC4emB8teC4xaB8leC5emB8aqC4xaB8aqC5fyB8aqC4xaB8teC4nyB9leC3v" ++
    "yB396qC4xaB;"),
  ("America/Bahia_Banderas",
   "-25260 -25200 -21600 -18000;.153nr74B21k0C1afyB65eC5paB6s2C3s3yBk9w6C7imB5yqC7imB5yqC7imB" ++
    "5yqC7ryB5peC7ryB702C5fyB702C7imB5yqC7imB5yqC7ryB5peC7ryB5peC7ryB5peC7ryB5yqC7imB5yqC7imB" ++
    "5yqD7rwC5peD7ryC5peD7ryC5yqD7imC5yqD7imC5yqD7imC5yqD7ryC5peD7ryC5peD7ryC5yqD7imC5yqD7imC" ++
    "5yqD7ryC5peD7ryC;"),
  ("America/Barbados",
   "-14309 -14400 -10800 -12600;.zp9dglB.fzq06jC4yqB91aC4o2B82mD5o2Bcb2oC45aB79eC67yB79eC67yB" ++
    "7iqC5umB;"),
  ("America/Belem",
   "-11636 -10800 -7200;.10xccqcB.99k8ksC6ooB6uqC6nyB69heC51cB8hcC4haB91eC4imB91eC3byB41qqC32" ++
    "mBcg2C26mB92qC3byB92qC4fyB92qC4haB6n2qC4xaB8aqC45aB9deC3vyB;"),
  ("America/Belize",
   "-21168 -21600 -19800 -18000;.100fdf4B.3edkc0C4nzB8tdC4xbB8k1C4xbB8k1C4xbB8tdC4nzB8tdC4nzB" ++
    "8tdC4xbB8k1C4xbB8k1C4xbB8k1C4xbB8tdC4nzB8tdC4nzB8tdC4xbB8k1C4xbB8k1C4xbB8tdC4nzB8tdC4nzB" ++
    "8tdC4nzB8tdC4xbB8k1C4xbB8k1C4xbB8tdC4nzB8tdC4nzB8tdC4xbB4xdD1axaBodeC4xbB8k1C4xbB8k1C4xb" ++
    "B8tdC4nzB8tdC4nzB8tdC4xbB8k1C4xbB8k1C4xbB8k1C4xbB8tdC4nzB8tdC4nzB8tdC4xbB8k1C4xbB8k1C4xb" ++
    "B8tdC4nzB8tdC4nzB8tdC4nzB8tdC4xbB8k1C4xbB8k1C4xbB8tdC4nzB26o1D2fyB3bs2D22mB;"),
  ("America/Boa_Vista",
   "-14560 -14400 -10800;.10xcezkB.99k93kC6ooB6uqC6nyB69heC51cB8hcC4haB91eC4imB91eC3byB41qqC3" ++
    "2mBcg2C26mB92qC3byB92qC4fyB92qC4haB6n2qC4xaB8aqC45aB9deC3vyB4dmqC5fyB8aqC9aB;"),
  ("America/Bogota",
   "-17776 -18000 -14400;.11e46swB.14f1hi8CadaB;"),
  ("America/Boise",
   "-27889 -28800 -25200 -21600;.l7hfb4Bcwu4C7ryB5peC7ryB1byqC71laD1d7yC83xeD6qmC6qqD6qmC6qqD" ++
    "6qmC6qqD6qmC6qqD6zyC6qqD6qmC6qqD6qmC3mqD9umC4eqD92mC6qqD6zyC6heD6zyC6qqD6qmC6qqD6qmC6qqD" ++
    "6qmC6qqD6qmC6qqD6zyC6heD6zyC6qqD6qmC6qqD6qmC6qqD6qmC5yqD7imC5yqD7ryC5peD7ryC5peD7ryC5yqD" ++
    "7imC5yqD7imC5yqD7ryC5peD7ryC5peD7ryC5yqD7imC5yqD7imC5yqD7imC5yqD7ryC5peD7ryC5peD7ryC5yqD" ++
    "7imC5yqD7imC5yqD7ryC5peD7ryC5peD7ryC;2007 -25200 -21600 3 2 0 7200 11 1 0 7200"),
  ("America/Cambridge_Bay",
   "0 -25200 -21600 -18000;.1421if4B8b36C1d7yB9zleC6qmB6qqC6qmB6qqC6qmB6qqC6qmB6qqC6zyB6heC6z" ++
    "yB6qqC6qmB6qqC6qmB6qqC6qmB6qqC6qmB6qqC6zyB6heC6zyB6qqC6qmB6qqC6qmB6qqC6qmB5yqC7imB5yqC7r" ++
    "yB5peC7ryB5peC7ryB5yqC7imB5yqC7imB5yqC7ryB5peC7ryB5peC7ryB5yqC7imB5yqC7imB5yqC7imB5yqCdh" ++
    "aD816Cd86B5yqC7imB5yqC7imB5yqC7ryB5peC7ryB5peC7ryB;2007 -25200 -21600 3 2 0 7200 11 1 0 " ++
    "7200"),
  ("America/Campo_Grande",
   "-13108 -14400 -10800;.10xcdv8B.99ka7wC6ooB6uqC6nyB69heC51cB8hcC4haB91eC4imB91eC3byB41qqC3" ++
    "2mBcg2C26mB92qC3byB92qC4fyB92qC4haB6n2qC4xaB8aqC45aB9deC3vyB9c2C3vyB9leC4emB9c2C4emB92qC" ++
    "45aB9leC3mmB9leC4nyB8teC4nyB8teC4emB8teC4xaB8leC5emB8aqC4xaB8aqC5fyB8aqC4xaB8teC4nyB9leC" ++
    "3vyB92qC4emB9o2C42mB8teC4nyB9leC45aB8k2C4nyB92qC4emB92qC4nyB8teC4nyB8teC4xaB8teC4emB92qC" ++
    "4emB92qC4nyB8teC4nyB8teC4nyB8teC4nyB9leC3vyB;"),
  ("America/Cancun",
   "-20824 -21600 -18000 -14400;.153nof4Bmjg4CduiB4zc6C7imB5yqCdhaD4emC342B5yqC7ryB5peC7ryB70" ++
    "2C5fyB702C7imB5yqC7imB5yqC7ryB5peC7ryB5peC7ryB5peC7ryB5yqC7imB5yqC7imB5yqC7ryB5peC7ryB5p" ++
    "eC7ryB5yqC7imB5yqC7imB3mqC;"),
  ("America/Caracas",
   "-16064 -16060 -16200 -14400;.oegytcB.bjfjzwC.rlo83wDg4thC35k0D;"),
  ("America/Cayenne",
   "-12560 -14400 -10800;.zm9xg0B.tcw6r4C;"),
  ("America/Chicago CST6CDT US/Central",
   "-21036 -21600 -18000;.l7h9r4Bcwu4C7ryB5peC7ryB8k2C56mB5g2C81aB6qqC5fyB81eC5paB7s2C5paB7s2" ++
    "C5paB7s2C5paB7s2C5paB81eC5paB7s2C5paB7s2C5paB7s2C5paB7s2C5paB81eC5fyB81eC5paB7s2C5paB5pe" ++
    "C9laB5yqC5paB7s2C5paB81eC5fyB81eC5paB7s2C5paB4yqC1d7yB7s2C5paB7s2C5paB7s2C5paB7s2C5paB81" ++
    "eC5fyB81eC5paB7s2C5paB7s2C5paB7s2C5paB7s2C6zyB6qqC6qmB6qqC6qmB6qqC6qmB6qqC6qmB6qqC6zyB6q" ++
    "qC6qmB6qqC6qmB6qqC6qmB6qqC6qmB6qqC6zyB6heC6zyB6qqC6qmB6qqC6qmB6qqC6qmB6qqC6qmB6qqC6zyB6q" ++
    "qC6qmB6qqC6qmB2leCavyB4eqC92mB6qqC6zyB6heC6zyB6qqC6qmB6qqC6qmB6qqC6qmB6qqC6qmB6qqC6zyB6h" ++
    "eC6zyB6qqC6qmB6qqC6qmB6qqC6qmB5yqC7imB5yqC7ryB5peC7ryB5peC7ryB5yqC7imB5yqC7imB5yqC7ryB5p" ++
    "eC7ryB5peC7ryB5yqC7imB5yqC7imB5yqC7imB5yqC7ryB5peC7ryB5peC7ryB5yqC7imB5yqC7imB5yqC7ryB5p" ++
    "eC7ryB5peC7ryB;2007 -21600 -18000 3 2 0 7200 11 1 0 7200"),
  ("America/Chihuahua",
   "-25460 -25200 -21600 -18000;.153nr74B21k0C1afyB65eC5paB6s2Co202D7imC5yqD7imCdheB5yqC7ryB5" ++
    "peC7ryB702C5fyB702C7imB5yqC7imB5yqC7ryB5peC7ryB5peC7ryB5peC7ryB5yqC7imB5yqC7imB5yqC7ryB5" ++
    "peC7ryB5peC7ryB5yqC7imB5yqC7imB5yqC7imB5yqC7ryB5peC7ryB5peC7ryB5yqC7imB5yqC7imB5yqC7ryB5" ++
    "peC;"),
  ("America/Ciudad_Juarez",
   "-25556 -25200 -21600 -18000;.153nr74B21k0C1afyB65eC5paB6s2Co202D7imC5yqD7imCdheB5yqC7ryB5" ++
    "peC7ryB702C5fyB702C7imB5yqC7imB5yqC7ryB5peC7ryB5peC7ryB5peC7ryB5yqC7imB5yqC7imB56qC8taB4" ++
    "o2C8taB4o2C8taB4o2C8taB4o2C8taB4o2C8taB4xeC8taB4o2C8taB4o2C8taB4o2C8taB4o2C8taB4xeC8taB4" ++
    "o2C9p6B;2023 -25200 -21600 3 2 0 7200 11 1 0 7200"),
  ("America/Costa_Rica",
   "-20173 -21600 -18000;.14llnbhB.ubtl3nC3mmB9uqC3mmB3zuqC61aB7g2C23yB;"),
  ("America/Coyhaique",
   "-17296 -16965 -18000 -14400 -10800;.oegzrkB.ag6l2tC.3dlssrB.157b79D.f4e0rB.49hzb9D.aye0rC" ++
    "5o2D7umC5o2D7umC5o2D7umC5o2D7vyC5o2D3numC29eD1r3yC1w0D8280E5fyD8teE4nyD79eE5paD7s2E5paD8" ++
    "1eE5fyD7iqE5ymD81eE5fyD81eE5paD7s2E5paD7s2E5paD81eE5fyD81eE5fyD81eE5paD7s2E5paD7s2E5paD7" ++
    "s2E5paD81eE5fyD81eE5fyD81eE6qmD6qqE5paD7s2E5paD81eE5fyD702E6haD81eE5paD7s2E5paD7s2E5paD7" ++
    "s2E5paD81eE5fyD81eE67yD79eE5paD79eE6zyD702E5paD81eE5fyD81eE5fyD81eE5fyD81eE5paD7s2E5paD7" ++
    "s2E5paD81eE5fyD81eE67yD79eE5paD7s2E6haD702E7ryD3w2E9byD4o2E8taD4xeE8jyD4xeEmtaD3deEa3yD3" ++
    "deEa3yD3deE8taD5peE7ryD5peE7ryD5peE7ryD5yqE7imD5peE81aD5peE;"),
  ("America/Cuiaba",
   "-13460 -14400 -10800;.10xce50B.99k9y4C6ooB6uqC6nyB69heC51cB8hcC4haB91eC4imB91eC3byB41qqC3" ++
    "2mBcg2C26mB92qC3byB92qC4fyB92qC4haB6n2qC4xaB8aqC45aB9deC3vyB9c2C3vyB9leC4emB9c2C4emB92qC" ++
    "45aB9leC3mmB9leC4nyB8teC4nyB8teC4emB8teC4xaB8leC5emB8aqC4xaB8aqC5fyB8aqC4xaB8teC4nyB9leC" ++
    "3vyBn5eC42mB8teC4nyB9leC45aB8k2C4nyB92qC4emB92qC4nyB8teC4nyB8teC4xaB8teC4emB92qC4emB92qC" ++
    "4nyB8teC4nyB8teC4nyB8teC4nyB9leC3vyB;"),
  ("America/Danmarkshavn",
   "-4480 -10800 -7200 0;.129n37kB.x8nx3kC6h4B6qoC6qoB6qoC6qoB6qoC6qoB6qoC700B6qoC6qoB6qoC6qo" ++
    "B6qoC6qoB6qoC6qoB6qoC6qoB6qoC700B6qoC6qoB6qoC6qoB6qoC6qoB6qoC6qoB6qoC6qoB3o4D;"),
  ("America/Dawson",
   "-33460 -32400 -28800 -25200;.ty82wkB.97l62kC79aB7s2C5x6B8dc6C1d7yB7cpaD700B3040C2fw2D6qmC" ++
    "6qqD6qmC6qqD6zyC6heD6zyC6qqD6qmC6qqD6qmC6qqD6qmC5yqD7imC5yqD7ryC5peD7ryC5peD7ryC5yqD7imC" ++
    "5yqD7imC5yqD7ryC5peD7ryC5peD7ryC5yqD7imC5yqD7imC5yqD7imC5yqD7ryC5peD7ryC5peD7ryC5yqD7imC" ++
    "5yqD7imC5yqD7ryC5peD7ryC5peD7ryC4xeD8taC4o2D8taC4o2D8taC4xeD8taC4o2D8taC4o2D8taC4o2D8taC" ++
    "4o2D8taC4o2D8taC4xeD8taC4o2D8taC4o2D8taC4o2D8taC4o2D;"),
  ("America/Dawson_Creek",
   "-28856 -28800 -25200;.l9pzcoB.hw36ugC79aB8r1eC1d7yBl9eC5paB7s2C5paB7s2C5paB81eC5fyB81eC5p" ++
    "aB7s2C5paB7s2C5paB7s2C5paB7s2C5paB81eC5paB7s2C5paB7s2C5paB7s2C5paB7s2C5paB81eC5fyB81eC6q" ++
    "mB6qqC6qmB6qqC6qmB6qqC6zyB6heC6zyB6qqC6qmB6qqC6qmB6qqC6qmB6qqC6qmB6qqC6zyB6qqC;")]

def zoneTableB : List (String × String) := [
  ("America/Denver America/Shiprock MST7MDT Navajo US/Mountain",
   "-25196 -25200 -21600;.l7hcj4Bcwu4C7ryB5peC7ryB5peC81aB5g2C22mB7saqC1d7yB7cpeC6zyB6heC6zyB" ++
    "6qqC6qmB6qqC6qmB6qqC6qmB6qqC6qmB6qqC6zyB6qqC6qmB6qqC6qmB2leCavyB4eqC92mB6qqC6zyB6heC6zyB" ++
    "6qqC6qmB6qqC6qmB6qqC6qmB6qqC6qmB6qqC6zyB6heC6zyB6qqC6qmB6qqC6qmB6qqC6qmB5yqC7imB5yqC7ryB" ++
    "5peC7ryB5peC7ryB5yqC7imB5yqC7imB5yqC7ryB5peC7ryB5peC7ryB5yqC7imB5yqC7imB5yqC7imB5yqC7ryB" ++
    "5peC7ryB5peC7ryB5yqC7imB5yqC7imB5yqC7ryB5peC7ryB5peC7ryB;2007 -25200 -21600 3 2 0 7200 1" ++
    "1 1 0 7200"),
  ("America/Detroit US/Michigan",
   "-19931 -21600 -18000 -14400;.w89hsrB.5eraudCa1qmD1d7yCyqqD5paC.9rlbxoD.71s2cC6qqD6qmC1oxe" ++
    "D6qmC2leDavyC6qqD6qmC6qqD6zyC6heD6zyC6qqD6qmC6qqD6qmC6qqD6qmC6qqD6qmC6qqD6zyC6heD6zyC6qq" ++
    "D6qmC6qqD6qmC6qqD6qmC5yqD7imC5yqD7ryC5peD7ryC5peD7ryC5yqD7imC5yqD7imC5yqD7ryC5peD7ryC5pe" ++
    "D7ryC5yqD7imC5yqD7imC5yqD7imC5yqD7ryC5peD7ryC5peD7ryC5yqD7imC5yqD7imC5yqD7ryC5peD7ryC5pe" ++
    "D7ryC;2007 -18000 -14400 3 2 0 7200 11 1 0 7200"),
  ("America/Edmonton America/Yellowknife Canada/Mountain",
   "-27232 -25200 -21600;.x3jkrkB.629inkC79aB682C1mmBcdeC6zyB6heC5paB81eC5fyB81eC5paB6weqC1d7" ++
    "yBl9eC5paB98mqC6qmB6qqC6qmB6qqC6qmB6qqC6qmB6qqC6zyB6heC6zyB6qqC6qmB6qqC6qmB6qqC6qmB6qqC6" ++
    "qmB6qqC6zyB6heC6zyB6qqC6qmB6qqC6qmB6qqC6qmB5yqC7imB5yqC7ryB5peC7ryB5peC7ryB5yqC7imB5yqC7" ++
    "imB5yqC7ryB5peC7ryB5peC7ryB5yqC7imB5yqC7imB5yqC7imB5yqC7ryB5peC7ryB5peC7ryB5yqC7imB5yqC7" ++
    "imB5yqC7ryB5peC7ryB5peC7ryB;2007 -25200 -21600 3 2 0 7200 11 1 0 7200"),
  ("America/Eirunepe",
   "-16768 -18000 -14400;.10xcgowB.99ka68C6ooB6uqC6nyB69heC51cB8hcC4haB91eC4imB91eC3byB41qqC3" ++
    "2mBcg2C26mB92qC3byB92qC4fyB92qC4haB6n2qC4xaB8aqC45aB9deC3vyB2502C4nyB5e02C20ryB;"),
  ("America/El_Salvador",
   "-21408 -21600 -18000;.14kvqxsB.ymao5cC5fyB81eC5fyB;"),
  ("America/Fort_Nelson",
   "-29447 -28800 -25200;.l9pzt3B.hw36e1C79aB8r1eC1d7yBl9eC5paB7s2C5paB7s2C5paB81eC5fyB81eC5p" ++
    "aB7s2C5paB7s2C5paB7s2C5paB7s2C5paB81eC5paB7s2C5paB7s2C5paB7s2C5paB7s2C5paB81eC5fyB81eC6q" ++
    "mB6qqC6qmB6qqC6qmB6qqC6zyB6heC6zyB6qqC6qmB6qqC6qmB6qqC6qmB6qqC6qmB6qqC6zyB6qqC6qmB6qqC6q" ++
    "mB6qqC6qmB6qqC6qmB6qqC6zyB6heC6zyB6qqC6qmB6qqC6qmB6qqC6qmB6qqC6qmB6qqC6zyB6heC6zyB6qqC6q" ++
    "mB6qqC6qmB6qqC6qmB5yqC7imB5yqC7ryB5peC7ryB5peC7ryB5yqC7imB5yqC7imB5yqC7ryB5peC7ryB5peC7r" ++
    "yB5yqC7imB5yqC7imB5yqC7imB5yqC7ryB5peC7ryB5peC7ryB5yqC7imB5yqC7imB5yqC7ryB5peC7ryB5peC7r" ++
    "yB4xeC8taB4o2C8taB4o2C8taB4xeC8taB4o2C8taB4o2C8taB4o2C8taB4o2C8taB4o2C;"),
  ("America/Fortaleza",
   "-9240 -10800 -7200;.10xcavsB.99kafcC6ooB6uqC6nyB69heC51cB8hcC4haB91eC4imB91eC3byB41qqC32m" ++
    "Bcg2C26mB92qC3byB92qC4fyB92qC4haB6n2qC4xaB8aqC45aB9deC3vyB9c2C3vyB9leC4emB3meqC5fyB8aqCi" ++
    "mBd82C4nyB;"),
  ("America/Glace_Bay",
   "-14388 -14400 -10800;.uwdausB.89fk8cC79aB8r1eC1d7yB2ueqC5paB6zheC6qmB6qqC6qmB6qqC6qmB6qqC" ++
    "6qmB6qqC6zyB6heC6zyB6qqC6qmB6qqC6qmB6qqC6qmB6qqC6qmB6qqC6zyB6heC6zyB6qqC6qmB6qqC6qmB6qqC" ++
    "6qmB5yqC7imB5yqC7ryB5peC7ryB5peC7ryB5yqC7imB5yqC7imB5yqC7ryB5peC7ryB5peC7ryB5yqC7imB5yqC" ++
    "7imB5yqC7imB5yqC7ryB5peC7ryB5peC7ryB5yqC7imB5yqC7imB5yqC7ryB5peC7ryB5peC7ryB;2007 -14400" ++
    " -10800 3 2 0 7200 11 1 0 7200"),
  ("America/Goose_Bay",
   "-14500 -12652 -9052 -12600 -9000 -14400 -10800 -7200;.l9po9wB.hw35goC79aB665aD.kzjykE5fyD" ++
    "81eE5fyD81eE5fyD8aqE56mD8aqE5fyD81eE5fyD81eE19uqD8aqE5fyD81eE5fyD81eE5fyD81eE5fyD8aqE5fy" ++
    "D7iqE5paD7s2E5paD7s2E5paD7s2E5paD7s2E5paD81eE5paD7s2E5paD7s2E5paD7s2E5paD7s2E6zyD6qqE6qm" ++
    "D6qqE6qmD6qqE6qmD6qqE6qmD6qqE6zyD502F1hdG6zyF6qqG6qmF6qqG6qmF6qqG6qmF6qqG6qmF6qqG6zyF6qq" ++
    "G6qmF6qqG6qmF6qqG6qmF6qqG6qmF6qqG6zyF6heG6zyF6qqG6qmF6qqG6qmF6qqG6qmF6qqG6qmF6qqG6zyF6he" ++
    "G6zyF6qqG6qmF6qqG6qmF6qqG6qmF.8a2loG7imF5yqH7rwF5pgG7ryF5peG7ryF5yqG7imF5yqG7imF5yqG7ryF" ++
    "5peG7ryF5peG7ryF5yqG7imF5yqG7imF5yqG7imF5yqG7ryF5peG7ryF5peG7ryF5yqG7imF5yqG7imF5yqG7ryF" ++
    "5peG7ryF5peG7ryF4xeG8taF4o2G8taF4o2G8taF4xeG8taF4o2G.c8tecF;2012 -14400 -10800 3 2 0 720" ++
    "0 11 1 0 7200"),
  ("America/Grand_Turk",
   "-17072 -18430 -18000 -14400;.oegzlcB.biv7pqC.z3brw2D6qmC6qqD6qmC6qqD6qmC6qqD6zyC6heD6zyC6" ++
    "qqD6qmC6qqD6qmC6qqD6qmC5yqD7imC5yqD7ryC5peD7ryC5peD7ryC5yqD7imC5yqD7imC5yqD7ryC5peD7ryC5" ++
    "peD7ryC5yqD7imC5yqD7imC5yqD7imC5yqD7ryC5peD7ryC5peD7ryC5yqD7imC5yqD7imC5yqD7ryC5peD7ryC5" ++
    "peD7ryC4xeD8taC4o2D8taC4o2D8taC4xeD8taC4o2D8taC4o2D8taC4o2D8taC4o2D8taC4o2D1dimC;2019 -1" ++
    "8000 -14400 3 2 0 7200 11 1 0 7200"),
  ("America/Guatemala",
   "-21724 -21600 -18000;.13er36kB.ss0akkC3daB3gxeC4laB2tg2C67yB5i42C5paB;"),
  ("America/Guayaquil",
   "-19160 -18840 -18000 -14400;.oeh17cB.le9mf4C.wb620oD2jyC;"),
  ("America/Guyana",
   "-13959 -14400 -13500 -10800;.znvd6vB.1va8c9C.vj6nb0D.8p0jd0B;"),
  ("America/Halifax Canada/Atlantic",
   "-15264 -14400 -10800;.uwdbj4B.777go0C6ryBkquC79aBkqmC45aB99eC4imB8s2C4qmB902C4haB902C4ymB" ++
    "8iqC5haB8iqC4fyB8iqC5haB8iqC4emB92qC47yB99eC4paB8s2C57yB802C5haB802C5qmB8iqC4emB9leC4fyB" ++
    "92qC3vyB8iqC5haB802C5haB91eC4fyB89eC5haB802C5haB4xiC1d7yB7s2C5paB7s2C5paB7s2C5paB7s2C5pa" ++
    "BliqC5paB7s2C5paB7s2C5paB7s2C5paBliqC5paB7s2C5paB7s2C5paB7s2C5paBz02C6qmB6qqC6qmB6qqC6qm" ++
    "B6qqC6zyB6heC6zyB6qqC6qmB6qqC6qmB6qqC6qmB6qqC6qmB6qqC6zyB6qqC6qmB6qqC6qmB6qqC6qmB6qqC6qm" ++
    "B6qqC6zyB6heC6zyB6qqC6qmB6qqC6qmB6qqC6qmB6qqC6qmB6qqC6zyB6heC6zyB6qqC6qmB6qqC6qmB6qqC6qm" ++
    "B5yqC7imB5yqC7ryB5peC7ryB5peC7ryB5yqC7imB5yqC7imB5yqC7ryB5peC7ryB5peC7ryB5yqC7imB5yqC7im" ++
    "B5yqC7imB5yqC7ryB5peC7ryB5peC7ryB5yqC7imB5yqC7imB5yqC7ryB5peC7ryB5peC7ryB;2007 -14400 -1" ++
    "0800 3 2 0 7200 11 1 0 7200"),
  ("America/Havana Cuba",
   "-19768 -19776 -18000 -14400;.oeh1o8B.ijto08C.1icfyoD4imC4diqD3daCa42D3mmCa42D3daC112qD3da" ++
    "Ca42D3daC71mqD4haC8xeD4nyC6yqD5qmC81eD5fyC8k2D6qmC6qqD6qmC6qqD6zyC6qqD5ymC7iqD5zyC7heD61" ++
    "aC7g2D6qmC6qqD6zyC6heD6zyC702D5paC5yqD7ryC5peD7ryC7s2D5paC7s2D5paC7s2D5paC7s2D5ymC7iqD5y" ++
    "mC5peD7ryC5peD7ryC5yqD7imC5yqD7imC6heD79aC6heD700C6hcD700C6hcD700C6hcD700C6hcD700C6qoD6q" ++
    "oC6qoD700C680D7s0C5pcD81cC5pcD7s0C5pcD7s0C5yoD7ioC5yoD7ioC5pcDz00C4xcD8k0C56oD8aoC4xcD8k" ++
    "0C56oD8k0C56oD8tcC56oD81cC;2013 -18000 -14400 3 2 0 0 11 1 0 3600"),
  ("America/Hermosillo",
   "-26632 -25200 -21600;.153nr74B21k0C1afyB65eC5paB6s2C3s3yBk9w6C7imB5yqC7imB5yqC7imB;"),
  ("America/Fort_Wayne America/Indiana/Indianapolis America/Indianapolis US/East-Indiana",
   "-20678 -21600 -18000 -14400;.l7h9r4Bcwu4C7ryB5peC7ryB84yqC3mmB4yqC1d7yB7s2C5paB7s2C5paB7s" ++
    "2C5paB7s2C5paB81eC5fyB81eC5paB7s2C5paB7s2C5paB7s2C5paB7s2CwxaB7s2C44taD6qmC6qqD6qmCdbdeD" ++
    "7ryC;2007 -18000 -14400 3 2 0 7200 11 1 0 7200"),
  ("America/Indiana/Knox America/Knox_IN US/Indiana-Starke",
   "-20790 -21600 -18000;.l7h9r4Bcwu4C7ryB5peC7ryB8dk2C1d7yBl9eC5paB7s2C5paB7s2C5paB81eC5fyB8" ++
    "1eC5paB7s2C5paB7s2C5paB7s2C5paB7s2C6zyB6qqC6qmB6qqC5paB7s2C5paB7s2C6qmB6qqC6zyB6qqC6qmB6" ++
    "qqCk7yB1bg2C6qmB6qqC6qmB6qqC6qmB6qqC6qmB6qqC6zyB6qqC6qmB6qqC6qmB2leCavyB4eqC92mB6qqC6zyB" ++
    "6heC6zyB6qqC6qmB6qqC6qmB6qqC6qmB6qqC6qmB6qqC6zyB6heC6zyB6qqC6qmB6qqC6qmB6qqC6qmB5yqC7imB" ++
    "5yqC7ryB5peC7ryB5peC7ryB5yqC5uimB;2007 -21600 -18000 3 2 0 7200 11 1 0 7200"),
  ("America/Indiana/Marengo",
   "-20723 -21600 -18000 -14400;.l7h9r4Bcwu4C7ryB5peC7ryB8dk2C1d7yB23g2C5paByqqC5paB7s2C5paB8" ++
    "1eC5paB7s2C5paB7s2C5paB7s2C5paB7s2C5paB81eC303yD6qmC6qqD6qmC6qqD6zyC6qqD6qmC6qqD6qmChw2D" ++
    "92mCbfpeD7ryC;2007 -18000 -14400 3 2 0 7200 11 1 0 7200"),
  ("America/Indiana/Petersburg",
   "-20947 -21600 -18000;.l7h9r4Bcwu4C7ryB5peC7ryB8dk2C1d7yB3lmmC5g2B81eC5paB7s2C5paB7s2C5paB" ++
    "7s2C5paB7s2C5paB81eC6qmB6qqC6qmB6qqC6qmB6qqC6qmB6qqCkhaB6qqC6qmB6qqC6qmB6qqC6qmB6qqC6qmB" ++
    "6qqC6zyB6qqC6qmB6qqC6qmB2leCavyB4eqC92mB6qqC6zyB6heCb39aB4xeC;2008 -18000 -14400 3 2 0 7" ++
    "200 11 1 0 7200"),
  ("America/Indiana/Tell_City",
   "-20823 -21600 -18000 -14400;.l7h9r4Bcwu4C7ryB5peC7ryB8dk2C1d7yB3lmmC5g2B81eC5paB7s2C5paB7" ++
    "s2C5paB7s2C5paB7s2C5paB81eC6qmB6qqC6qmB6qqC6qmB6qqC1bfyB6qqC6qmB6qqD6qkC6qqD6qmCdj5eB;20" ++
    "07 -21600 -18000 3 2 0 7200 11 1 0 7200"),
  ("America/Indiana/Vevay",
   "-20416 -21600 -18000 -14400;.l7h9r4Bcwu4C7ryB5peC7ryB8dk2C1d7yB37w2C5mzyD6qmC6qqD6qmC6qqD" ++
    "6zyC6qqD6qmCck5eD7ryC;2007 -18000 -14400 3 2 0 7200 11 1 0 7200"),
  ("America/Indiana/Vincennes",
   "-21007 -21600 -18000 -14400;.l7h9r4Bcwu4C7ryB5peC7ryB8dk2C1d7yB7s2C5paB2gxeC5paB7s2C5paB8" ++
    "1aC5g2B81eC5paB7s2C5paB7s2C5paB7s2C5paB7s2C6zyB6qqC5fyB81eC6qmB6qqC6qmB6qqC1vnyD6qmC6qqD" ++
    "6qmCdj5eB4xeC;2008 -18000 -14400 3 2 0 7200 11 1 0 7200"),
  ("America/Indiana/Winamac",
   "-20785 -21600 -18000 -14400;.l7h9r4Bcwu4C7ryB5peC7ryB8dk2C1d7yB7s2C5paB7s2C5paB7s2C5paB7s" ++
    "2C5paB81eC5fyB81eC5paB7s2C5paB7s2C5paB7s2C5paB7s2C6zyB6qqC6qmB6qqC5paB7s2C5paB7s2C5paB7s" ++
    "2C5paB81eC303yD6qmC6qqD6qmCdj5eB4xeD8t8C;2008 -18000 -14400 3 2 0 7200 11 1 0 7200"),
  ("America/Inuvik",
   "0 -28800 -25200 -21600;.1la3qf4B79gkC6qmB6qqC6qmB6qqC6qmB6qqC6qmB6qqC6zyB6heC6zyB6qqC6qmB" ++
    "6qqD6qkC6qqD6qmC6qqD6qmC6qqD6zyC6heD6zyC6qqD6qmC6qqD6qmC6qqD6qmC5yqD7imC5yqD7ryC5peD7ryC" ++
    "5peD7ryC5yqD7imC5yqD7imC5yqD7ryC5peD7ryC5peD7ryC5yqD7imC5yqD7imC5yqD7imC5yqD7ryC5peD7ryC" ++
    "5peD7ryC5yqD7imC5yqD7imC5yqD7ryC5peD7ryC5peD7ryC;2007 -25200 -21600 3 2 0 7200 11 1 0 72" ++
    "00"),
  ("America/Iqaluit America/Pangnirtung",
   "0 -14400 -18000 -21600;.1fubl34B16toC9zleB6qmC6qqB6qmC6qqB6qmC6qqB6qmC6qqB6zyC6heB6zyC6qq" ++
    "B6qmC6qqB6qmC6qqB6qmC6qqB6qmC6qqB6zyC6heB6zyC6qqB6qmC6qqB6qmC6qqB6qmC5yqB7imC5yqB7ryC5pe" ++
    "B7ryC5peB7ryC5yqB7imC5yqB7imC5yqB7ryC5peB7ryC5peB7ryC5yqB7imC5yqB7imC5yqB7imC5yqB7ryD5pg" ++
    "CdhaB7ryC5yqB7imC5yqB7imC5yqB7ryC5peB7ryC5peB7ryC;2007 -18000 -14400 3 2 0 7200 11 1 0 7" ++
    "200"),
  ("America/Jamaica Jamaica",
   "-18430 -18000 -14400;.zxc7b2B.wbl182CavyB4eqC92mB6qqC6zyB6heC6zyB6qqC6qmB6qqC6qmB6qqC6qmB" ++
    "6qqC6qmB6qqC6zyB6heC6zyB;"),
  ("America/Juneau",
   "54139 -32261 -28800 -25200 -32400;.cta575B.h4yu44C.ln707vD1d7yC8uw2D6qmC6qqD6qmC6qqD6zyC6" ++
    "qqD6qmC6qqD6qmC2leDavyC4eqD92mC6qqD6zyC6heD6zyC6qqD6qmC6qqD6qmCk82D6qmC6qqD6zyC6heD6zyE6" ++
    "qsC6qmE6qqC6qmE6qqC6qmE5yqC7imE5yqC7ryE5peC7ryE5peC7ryE5yqC7imE5yqC7imE5yqC7ryE5peC7ryE5" ++
    "peC7ryE5yqC7imE5yqC7imE5yqC7imE5yqC7ryE5peC7ryE5peC7ryE5yqC7imE5yqC7imE5yqC7ryE5peC7ryE5" ++
    "peC7ryE;2007 -32400 -28800 3 2 0 7200 11 1 0 7200"),
  ("America/Kentucky/Louisville America/Louisville",
   "-20582 -21600 -18000 -14400;.l7h9r4Bcwu4C7ryB5peC7ryBkheC4jyB7duqC5paB4yqC1d7yB.ast9oC.1s" ++
    "w2cB1gw2C5fyB81eC5paB7s2C5paB7s2C5paB7s2C5paB7s2C5paB81eC6qmB6qqC6qmB6qqC6qmB6qqC6qmB6qq" ++
    "C6zyB6qqC2mmmD6qmC6qqD6qmC6qqD6qmC6qqD6zyC6qqD6qmC6qqD6qmChw2D92mC6qqD6zyC6heD6zyC6qqD6q" ++
    "mC6qqD6qmC6qqD6qmC6qqD6qmC6qqD6zyC6heD6zyC6qqD6qmC6qqD6qmC6qqD6qmC5yqD7imC5yqD7ryC5peD7r" ++
    "yC5peD7ryC5yqD7imC5yqD7imC5yqD7ryC5peD7ryC5peD7ryC5yqD7imC5yqD7imC5yqD7imC5yqD7ryC5peD7r" ++
    "yC5peD7ryC5yqD7imC5yqD7imC5yqD7ryC5peD7ryC5peD7ryC;2007 -18000 -14400 3 2 0 7200 11 1 0 " ++
    "7200"),
  ("America/Kentucky/Monticello",
   "-20364 -21600 -18000 -14400;.l7h9r4Bcwu4C7ryB5peC7ryB8dk2C1d7yB8heqC6qmB6qqC6qmB6qqC6qmB6" ++
    "qqC6zyB6qqC6qmB6qqC6qmB2leCavyB4eqC92mB6qqC6zyB6heC6zyB6qqC6qmB6qqC6qmB6qqC6qmB6qqC6qmB6" ++
    "qqC6zyB6heC6zyB6qqC6qmB6qqC6qmB6qqC6qmB5yqC7imB5yqC7ryB5peC7ryB5peC7ryB5yqC7imB5yqC7imB5" ++
    "yqC7ryB5peC7ryB5peC7ryB5yqC7imB5yqC7imB5yqC7imB5yqC7ryB5peCdhaD7ryC5yqD7imC5yqD7imC5yqD7" ++
    "ryC5peD7ryC5peD7ryC;2007 -18000 -14400 3 2 0 7200 11 1 0 7200"),
  ("America/La_Paz",
   "-16356 -12756 -14400;.1a7i31gB5umC;"),
  ("America/Lima",
   "-18492 -18516 -18000 -14400;.oeh0osB.9ov9coC.fcxjloD3byC6k2D6qmC6qqD6qmCh782D3byCa6qD3byC" ++
    "119eD3byC1es2D3byC;"),
  ("America/Los_Angeles PST8PDT US/Pacific",
   "-28378 -28800 -25200;.l7hfb4Bcwu4C7ryB5peC7ryB8dk2C1d7yB.1a3c5oC.f2iicBhxcC5g0B81cC5pcB7s" ++
    "0C5pcB7s0C5pcB7s0C5pcB7s0C5pcB81cC5pcB7s0C5pcB7s0C5pcB7s0C5pcB7s0C5pcB81cC5g0B81cC6qoB6q" ++
    "oC6qoB6qoC6qoB6qoC700B6hcC700B6qqC6qmB6qqC6qmB6qqC6qmB6qqC6qmB6qqC6zyB6qqC6qmB6qqC6qmB2l" ++
    "eCavyB4eqC92mB6qqC6zyB6heC6zyB6qqC6qmB6qqC6qmB6qqC6qmB6qqC6qmB6qqC6zyB6heC6zyB6qqC6qmB6q" ++
    "qC6qmB6qqC6qmB5yqC7imB5yqC7ryB5peC7ryB5peC7ryB5yqC7imB5yqC7imB5yqC7ryB5peC7ryB5peC7ryB5y" ++
    "qC7imB5yqC7imB5yqC7imB5yqC7ryB5peC7ryB5peC7ryB5yqC7imB5yqC7imB5yqC7ryB5peC7ryB5peC7ryB;2" ++
    "007 -28800 -25200 3 2 0 7200 11 1 0 7200"),
  ("America/Maceio",
   "-8572 -10800 -7200;.10xcad8B.99kaxwC6ooB6uqC6nyB69heC51cB8hcC4haB91eC4imB91eC3byB41qqC32m" ++
    "Bcg2C26mB92qC3byB92qC4fyB92qC4haB6n2qC4xaB8aqC45aB9deC3vyB9c2C3vyB9leC4emB24qqC4emB1d9eC" ++
    "5fyB8aqCimBd82C4nyB;"),
  ("America/Managua",
   "-20708 -20712 -21600 -18000;.oeh2ecB.n7jmo4C.ka1i0oDoamC1j82D3nyC9teD3nyC4bwaD9vqC3o2D1i3" ++
    "yC33w2D6haC7s6D5p8C;"),
  ("America/Manaus Brazil/West",
   "-14404 -14400 -10800;.10xcev8B.99k97wC6ooB6uqC6nyB69heC51cB8hcC4haB91eC4imB91eC3byB41qqC3" ++
    "2mBcg2C26mB92qC3byB92qC4fyB92qC4haB6n2qC4xaB8aqC45aB9deC3vyB2502C4nyB;"),
  ("America/Martinique",
   "-14660 -14400 -10800;.zj50ecB.zz5x4sC6haB;"),
  ("America/Matamoros",
   "-23400 -21600 -18000;.153nof4Bow9gC7ryB2sleC7imB5yqC7imB5yqC7imB5yqC7ryB5peC7ryB702C5fyB7" ++
    "02C7imB5yqC7imB5yqC7ryB5peC7ryB5peC7ryB5peC7ryB5yqC7imB5yqC7imB;2010 -21600 -18000 3 2 0" ++
    " 7200 11 1 0 7200"),
  ("America/Mazatlan Mexico/BajaSur",
   "-25540 -25200 -21600;.153nr74B21k0C1afyB65eC5paB6s2C3s3yBk9w6C7imB5yqC7imB5yqC7imB5yqC7ry" ++
    "B5peC7ryB702C5fyB702C7imB5yqC7imB5yqC7ryB5peC7ryB5peC7ryB5peC7ryB5yqC7imB5yqC7imB5yqC7ry" ++
    "B5peC7ryB5peC7ryB5yqC7imB5yqC7imB5yqC7imB5yqC7ryB5peC7ryB5peC7ryB5yqC7imB5yqC7imB5yqC7ry" ++
    "B5peC7ryB;"),
  ("America/Menominee",
   "-21027 -21600 -18000;.m5xzz7B.gz53bxC7ryB5peC7ryB8dk2C1d7yB7s2C5paB7cpeC6zyBxpeC1oxaB2leC" ++
    "avyB4eqC92mB6qqC6zyB6heC6zyB6qqC6qmB6qqC6qmB6qqC6qmB6qqC6qmB6qqC6zyB6heC6zyB6qqC6qmB6qqC" ++
    "6qmB6qqC6qmB5yqC7imB5yqC7ryB5peC7ryB5peC7ryB5yqC7imB5yqC7imB5yqC7ryB5peC7ryB5peC7ryB5yqC" ++
    "7imB5yqC7imB5yqC7imB5yqC7ryB5peC7ryB5peC7ryB5yqC7imB5yqC7imB5yqC7ryB5peC7ryB5peC7ryB;200" ++
    "7 -21600 -18000 3 2 0 7200 11 1 0 7200"),
  ("America/Merida",
   "-21508 -21600 -18000;.153nof4Bmjg4CbimB51o2C7imB5yqC7imB5yqC7imB5yqC7ryB5peC7ryB702C5fyB7" ++
    "02C7imB5yqC7imB5yqC7ryB5peC7ryB5peC7ryB5peC7ryB5yqC7imB5yqC7imB5yqC7ryB5peC7ryB5peC7ryB5" ++
    "yqC7imB5yqC7imB5yqC7imB5yqC7ryB5peC7ryB5peC7ryB5yqC7imB5yqC7imB5yqC7ryB5peC7ryB;"),
  ("America/Metlakatla",
   "54822 -31578 -28800 -25200 -32400;.cta575B.h4ytl5C.ln70quD1d7yC8uw2D6qmC6qqD6qmC6qqD6zyC6" ++
    "qqD6qmC6qqD6qmC2leDavyC4eqD92mC6qqD6zyC6heD6zyC6qqD6qmC6qqD6qmC6qqD6qmC6qqD6qmC6qqD6zyC6" ++
    "heD6zyCc0yqE4xeC8taE4o2C8taE4o2CbnyE1teC8taE;2020 -32400 -28800 3 2 0 7200 11 1 0 7200"),
  ("America/Mexico_City Mexico/General",
   "-23796 -25200 -21600 -18000;.153nr74B21k0C1afyB65eC5paB6s2C2kmmD56mCjqqD46mC10mqD52mC269e" ++
    "D67yCh62uD7imC5yqD7imC5yqD7imC5yqD7ryC5peD7ryC702D5fyC702D7imC5yqD7imC5yqD7ryC5peD7ryC5p" ++
    "eD7ryC5peD7ryC5yqD7imC5yqD7imC5yqD7ryC5peD7ryC5peD7ryC5yqD7imC5yqD7imC5yqD7imC5yqD7ryC5p" ++
    "eD7ryC5peD7ryC5yqD7imC5yqD7imC5yqD7ryC5peD7ryC;"),
  ("America/Miquelon",
   "-13480 -14400 -10800 -7200;.zlgbhkB.zy4wpkC2lpeD7imC5yqD7ryC5peD7ryC5peD7ryC5yqD7imC5yqD7" ++
    "imC5yqD7ryC5peD7ryC5peD7ryC5yqD7imC5yqD7imC5yqD7imC5yqD7ryC5peD7ryC5peD7ryC5yqD7imC5yqD7" ++
    "imC5yqD7ryC5peD7ryC5peD7ryC;2007 -10800 -7200 3 2 0 7200 11 1 0 7200"),
  ("America/Moncton",
   "-15548 -18000 -14400 -10800;.l8j3r0B.9nu9w4C5y5eD79aC5htcD3daCa42D3daCa42D3daCa42D3daCa42" ++
    "D3daCa42D3daC9teD4emC8uqD4mmC8c2D5emC504D1d7yC7s2D5paC7s2D5paC7s2D5paC7s2D5paC81eD5fyC81" ++
    "eD5paC7s2D5paC7s2D5paC7s2D5paC7s2D5paC81eD5paC7s2D6qmC6qqD6qmC6qqD6qmC6qqD6zyC6qqD6qmC6q" ++
    "qD6qmC6qqD6qmC6qqD6qmC6qqD6zyC6heD6zyC6qqD6qmC6qqD6qmC6qqD6qmC6qqD6qmC6qqD6zyC6qqD6qmCk8" ++
    "2D6qmC6qqD6qmC6qqD6zyC6heD6zyC6qqD6qmC6qqD6qmC6qqD6qmC6qqD6qmC6qqD6zyC6heD6zyC6qqD6qmC6q" ++
    "qD6qmC6qqD6qmC5yqD7imC5yqD7ryC5peD7ryC5peD7ryC5yqD7imC5yqD7imC.8a2loD7ryC5peD7ryC5peD7ry" ++
    "C5yqD7imC5yqD7imC5yqD7imC5yqD7ryC5peD7ryC5peD7ryC5yqD7imC5yqD7imC5yqD7ryC5peD7ryC5peD7ry" ++
    "C;2007 -14400 -10800 3 2 0 7200 11 1 0 7200"),
  ("America/Monterrey",
   "-24076 -25200 -21600 -18000;.153nof4B21k2C1afyB65eC5paB6s2Cl1mqD7ryC2sleD7imC5yqD7imC5yqD" ++
    "7imC5yqD7ryC5peD7ryC702D5fyC702D7imC5yqD7imC5yqD7ryC5peD7ryC5peD7ryC5peD7ryC5yqD7imC5yqD" ++
    "7imC5yqD7ryC5peD7ryC5peD7ryC5yqD7imC5yqD7imC5yqD7imC5yqD7ryC5peD7ryC5peD7ryC5yqD7imC5yqD" ++
    "7imC5yqD7ryC5peD7ryC;"),
  ("America/Montevideo",
   "-13491 -14400 -10800 -12600 -9000 -7200 -5400;.1489vhvB.1s74p9C6ryD6s1C6qnD6s1C6qnD2uipC5" ++
    "pbD7s1C5pbD7s1C5pbD7s1C5pbD81dC5fzD81dC5fzD701C6qnD7s1C5pbD4ldCiinE3bzC632pE6hbC2c1F1taC" ++
    "1wpeF6haC102qE6ynCiw1F1umCp5eF33yCk82G22lE6heC45dF3mmCnc2F2umCa42F3daCamqF2umC22qFbxaC2w" ++
    "s2F2taCamqF33yC8teF4emC8teF4xaC8teF4nyC8k2F4xaC4cc2F702C79eF5paC7iqF5ymC7s2F5paC7s2F5paC" ++
    "7s2F5ymC7iqF5ymC7iqF5ymC7s2F5paC7s2F5paC7s2F5paC;"),
  ("America/New_York EST5EDT US/Eastern",
   "-17762 -18000 -14400;.l7h6z4Bcwu4C7ryB5peC7ryB5peC81aB6heC5paB81eC5fyB81eC5paB7s2C5paB7s2" ++
    "C5paB7s2C5paB7s2C5paB81eC5paB7s2C5paB7s2C5paB7s2C5paB7s2C5paB81eC5fyB81eC5paB7s2C5paB7s2" ++
    "C5paB7s2C5paB7s2C5paB81eC5fyB81eC5paB7s2C5paB4yqC1d7yB7s2C5paB7s2C5paB7s2C5paB7s2C5paB81" ++
    "eC5fyB81eC5paB7s2C5paB7s2C5paB7s2C5paB7s2C6zyB6qqC6qmB6qqC6qmB6qqC6qmB6qqC6qmB6qqC6zyB6q" ++
    "qC6qmB6qqC6qmB6qqC6qmB6qqC6qmB6qqC6zyB6heC6zyB6qqC6qmB6qqC6qmB6qqC6qmB6qqC6qmB6qqC6zyB6q" ++
    "qC6qmB6qqC6qmB2leCavyB4eqC92mB6qqC6zyB6heC6zyB6qqC6qmB6qqC6qmB6qqC6qmB6qqC6qmB6qqC6zyB6h" ++
    "eC6zyB6qqC6qmB6qqC6qmB6qqC6qmB5yqC7imB5yqC7ryB5peC7ryB5peC7ryB5yqC7imB5yqC7imB5yqC7ryB5p" ++
    "eC7ryB5peC7ryB5yqC7imB5yqC7imB5yqC7imB5yqC7ryB5peC7ryB5peC7ryB5yqC7imB5yqC7imB5yqC7ryB5p" ++
    "eC7ryB5peC7ryB;2007 -18000 -14400 3 2 0 7200 11 1 0 7200"),
  ("America/Nome",
   "46702 -39698 -39600 -36000 -32400 -28800;.cta575B.h4yzupC.ln72taD1d7yC8uw2D6qmC6qqD6qmC6q" ++
    "qD6zyC6qqD6qmC6qqD6qmC2leDavyC4eqD92mC6qqD6zyC6heD6zyC6qqD6qmC6qqD6qmC6qqD6qmC6qqD6qmC6q" ++
    "qD6zyC6heD6zyE6qmF6qmE6qqF6qmE6qqF6qmE5yqF7imE5yqF7ryE5peF7ryE5peF7ryE5yqF7imE5yqF7imE5y" ++
    "qF7ryE5peF7ryE5peF7ryE5yqF7imE5yqF7imE5yqF7imE5yqF7ryE5peF7ryE5peF7ryE5yqF7imE5yqF7imE5y" ++
    "qF7ryE5peF7ryE5peF7ryE;2007 -32400 -28800 3 2 0 7200 11 1 0 7200"),
  ("America/Noronha Brazil/DeNoronha",
   "-7780 -7200 -3600;.10xc9r8B.99k8rwC6ooB6uqC6nyB69heC51cB8hcC4haB91eC4imB91eC3byB41qqC32mB" ++
    "cg2C26mB92qC3byB92qC4fyB92qC4haB6n2qC4xaB8aqC45aB9deC3vyB9c2C3vyB9leC4emB3meqC5fyB8aqC9a" ++
    "BdheC4nyB;"),
  ("America/North_Dakota/Beulah",
   "-24427 -25200 -21600;.l7hcj4Bcwu4C7ryB5peC7ryB8dk2C1d7yB83xeC6qmB6qqC6qmB6qqC6qmB6qqC6qmB" ++
    "6qqC6zyB6qqC6qmB6qqC6qmB2leCavyB4eqC92mB6qqC6zyB6heC6zyB6qqC6qmB6qqC6qmB6qqC6qmB6qqC6qmB" ++
    "6qqC6zyB6heC6zyB6qqC6qmB6qqC6qmB6qqC6qmB5yqC7imB5yqC7ryB5peC7ryB5peC7ryB5yqC7imB5yqC7imB" ++
    "5yqC7ryB5peC7ryB5peC7ryB5yqC7imB5yqC7imB5yqC7imB5yqC7ryB5peC7ryB5peC7ryB5yqC7imB5yqC7imB" ++
    "5yqC7ryB5peC7ryB5peC7ryB4xeC8taB4o2C8taB4o2C8taB4xeC;2011 -21600 -18000 3 2 0 7200 11 1 " ++
    "0 7200"),
  ("America/North_Dakota/Center",
   "-24312 -25200 -21600 -18000;.l7hcj4Bcwu4C7ryB5peC7ryB8dk2C1d7yB83xeC6qmB6qqC6qmB6qqC6qmB6" ++
    "qqC6qmB6qqC6zyB6qqC6qmB6qqC6qmB2leCavyB4eqC92mB6qqC6zyB6heC6zyB6qqC6qmB6qqC6qmB6qqC6qmB6" ++
    "qqC6qmB6qqC6zyB6heC6zyB6qqC6qmB6qqC6qmB6qqC6qmB5yqC7imB5yqC7ryB5peC7ryB5peC7ryB5yqC7imB5" ++
    "yqCdhaD7ryC5peD7ryC5peD7ryC5yqD7imC5yqD7imC5yqD7imC5yqD7ryC5peD7ryC5peD7ryC5yqD7imC5yqD7" ++
    "imC5yqD7ryC5peD7ryC5peD7ryC;2007 -21600 -18000 3 2 0 7200 11 1 0 7200"),
  ("America/North_Dakota/New_Salem",
   "-24339 -25200 -21600 -18000;.l7hcj4Bcwu4C7ryB5peC7ryB8dk2C1d7yB83xeC6qmB6qqC6qmB6qqC6qmB6" ++
    "qqC6qmB6qqC6zyB6qqC6qmB6qqC6qmB2leCavyB4eqC92mB6qqC6zyB6heC6zyB6qqC6qmB6qqC6qmB6qqC6qmB6" ++
    "qqC6qmB6qqC6zyB6heC6zyB6qqC6qmB6qqC6qmB6qqC6qmB5yqC7imB5yqC7ryB5peC7ryB5peC7ryB5yqC7imB5" ++
    "yqC7imB5yqC7ryB5peC7ryB5peC7ryB5yqC7imB5yqC7imB5yqC7imB5yqC7ryB5peC7ryB5peC7ryB5yqC7imB5" ++
    "yqCdhaD7ryC5peD7ryC5peD7ryC;2007 -21600 -18000 3 2 0 7200 11 1 0 7200"),
  ("America/Godthab America/Nuuk",
   "-12416 -10800 -7200;.129n9c0B.x8nqz4C6h4B6qoC6qoB6qoC6qoB6qoC6qoB6qoC700B6qoC6qoB6qoC6qoB" ++
    "6qoC6qoB6qoC6qoB6qoC6qoB6qoC700B6qoC6qoB6qoC6qoB6qoC6qoB6qoC6qoB6qoC6qoB700C7s0B5pcC7s0B" ++
    "5pcC7s0B5pcC81cB5g0C81cB5g0C81cB5pcC7s0B5pcC7s0B5pcC81cB5g0C81cB5g0C81cB5g0C81cB5pcC7s0B" ++
    "5pcC7s0B5pcC81cB5g0C81cB5g0C81cB5pcC7s0B5pcC7s0B5pcC7s0B5pcC81cB5g0C81cB5g0C81cB5pcC7s0B" ++
    "5pcC7s0B5pcC81cB5g0C81cB5g0C;2024 -7200 -3600 3 5 0 -3600 10 5 0 0"),
  ("America/Ojinaga",
   "-25060 -25200 -21600 -18000;.153nr74B21k0C1afyB65eC5paB6s2Co202D7imC5yqD7imCdheB5yqC7ryB5" ++
    "peC7ryB702C5fyB702C7imB5yqC7imB5yqC7ryB5peC7ryB5peC7ryB5peC7ryB5yqC7imB5yqC7imB56qC8taB4" ++
    "o2C8taB4o2C8taB4o2C8taB4o2C8taB4o2C8taB4xeC8taB4o2C8taB4o2C8taB4o2C8taB4o2C8taB4xeC8taB4" ++
    "o2C;2023 -21600 -18000 3 2 0 7200 11 1 0 7200"),
  ("America/Atikokan America/Cayman America/Coral_Harbour America/Panama EST",
   "-19088 -19176 -18000;.oeh15cB.9jvmqgC;"),
  ("America/Paramaribo",
   "-13240 -13252 -13236 -12600 -10800;.zcyrawB.cixc0cC.5lydbkD.kcrm6cE;")]

def zoneTableC : List (String × String) := [
  ("America/Creston America/Phoenix MST US/Arizona",
   "-26898 -25200 -21600;.l7hcj4Bcwu4C7ryB5peC7ryB8dk2C.zjedoB3deC6ryB.bs6lmcC6qmB;"),
  ("America/Port-au-Prince",
   "-17360 -17340 -18000 -14400;.oegztcB.e4gmngC.ylcf6cD6haC6qqD6qmC6qqD6qmC6qqD6qmC6qqD6qmC5" ++
    "ysD7s0C5pcD7s0C5pcD7s0C5yoD7ioC5yoD7ioC5yoD7s0C5pcD7s0C5pcD7s0C5yoD7ioC5yoD7ioC2slaD7ryC" ++
    "5peD7ryC20liD8taC4o2D8taC4o2D8taC4o2D8taC;2017 -18000 -14400 3 2 0 7200 11 1 0 7200"),
  ("America/Porto_Velho",
   "-15336 -14400 -10800;.10xcfl4B.99k8i0C6ooB6uqC6nyB69heC51cB8hcC4haB91eC4imB91eC3byB41qqC3" ++
    "2mBcg2C26mB92qC3byB92qC4fyB92qC4haB6n2qC4xaB8aqC45aB9deC3vyB;"),
  ("America/Anguilla America/Antigua America/Aruba America/Blanc-Sablon America/Curacao Ameri" ++
   "ca/Dominica America/Grenada America/Guadeloupe America/Kralendijk America/Lower_Princes A" ++
   "merica/Marigot America/Montserrat America/Port_of_Spain America/Puerto_Rico America/St_Ba" ++
   "rthelemy America/St_Kitts America/St_Lucia America/St_Thomas America/St_Vincent America/T" ++
   "ortola America/Virgin",
   "-15865 -14400 -10800;.t806ntB.mhp1jbC1a5eB;"),
  ("America/Punta_Arenas",
   "-17020 -16965 -18000 -14400 -10800;.oegzjwB.ag6lahC.3dlssrB.157b79D.f4e0rB.49hzb9D.aye0rC" ++
    "5o2D7umC5o2D7umC5o2D7umC5o2D7vyC5o2D3numC29eD1r3yC1w0D8280E5fyD8teE4nyD79eE5paD7s2E5paD8" ++
    "1eE5fyD7iqE5ymD81eE5fyD81eE5paD7s2E5paD7s2E5paD81eE5fyD81eE5fyD81eE5paD7s2E5paD7s2E5paD7" ++
    "s2E5paD81eE5fyD81eE5fyD81eE6qmD6qqE5paD7s2E5paD81eE5fyD702E6haD81eE5paD7s2E5paD7s2E5paD7" ++
    "s2E5paD81eE5fyD81eE67yD79eE5paD79eE6zyD702E5paD81eE5fyD81eE5fyD81eE5fyD81eE5paD7s2E5paD7" ++
    "s2E5paD81eE5fyD81eE67yD79eE5paD7s2E6haD702E7ryD3w2E9byD4o2E8taD4xeE8jyD4xeEmtaD3deE;"),
  ("America/Rankin_Inlet",
   "0 -21600 -18000;.1nd9af4B5rcgC6qmB6qqC6qmB6qqC6qmB6qqC6qmB6qqC6zyB6heC6zyB6qqC6qmB6qqC6qm" ++
    "B6qqC6qmB6qqC6qmB6qqC6zyB6heC6zyB6qqC6qmB6qqC6qmB6qqC6qmB5yqC7imB5yqC7ryB5peC7ryB5peC7ry" ++
    "B5yqC7imB5yqC7imB5yqC7ryB5peC7ryB5peC7ryB5yqC7imB5yqC7imB5yqC7imB5yqC7ryB5peCl9aB5yqC7im" ++
    "B5yqC7imB5yqC7ryB5peC7ryB5peC7ryB;2007 -21600 -18000 3 2 0 7200 11 1 0 7200"),
  ("America/Recife",
   "-8376 -10800 -7200;.10xca7sB.99kb3cC6ooB6uqC6nyB69heC51cB8hcC4haB91eC4imB91eC3byB41qqC32m" ++
    "Bcg2C26mB92qC3byB92qC4fyB92qC4haB6n2qC4xaB8aqC45aB9deC3vyB9c2C3vyB9leC4emB3meqC5fyB8aqC9" ++
    "aBdheC4nyB;"),
  ("America/Regina Canada/Saskatchewan",
   "-25116 -25200 -21600;.wkrlssB.6l1hmcC79aB4btaC5paB7s2C5paB7s2C5paB81eC5fyB81eC5paBxyqC6qm" ++
    "B6qqC6haB702C6qmB702C6qmB6qqC6qmB4g6C1d7yB79eC6qmB79eC5paB7s2C5paB7s2C5paB81eC5fyB81eC5p" ++
    "aB7s2C5paB7s2C5paB7s2C5paB7s2C5paB81eC5paB7s2C5paBl9eC6qmB6qqC;"),
  ("America/Resolute",
   "0 -21600 -18000;.1ihsmf4B99ogC6qmB6qqC6qmB6qqC6qmB6qqC6qmB6qqC6zyB6heC6zyB6qqC6qmB6qqC6qm" ++
    "B6qqC6qmB6qqC6qmB6qqC6zyB6heC6zyB6qqC6qmB6qqC6qmB6qqC6qmB5yqC7imB5yqC7ryB5peC7ryB5peC7ry" ++
    "B5yqC7imB5yqC7imB5yqC7ryB5peC7ryB5peC7ryB5yqC7imB5yqC7imB5yqC7imB5yqC7ryB5peCl9aB5yqC7im" ++
    "B5yqC7imB5yqC7ryB5peC7ryB5peClimB;2008 -21600 -18000 3 2 0 7200 11 1 0 7200"),
  ("America/Porto_Acre America/Rio_Branco Brazil/Acre",
   "-16272 -18000 -14400;.10xcgb4B.99kak0C6ooB6uqC6nyB69heC51cB8hcC4haB91eC4imB91eC3byB41qqC3" ++
    "2mBcg2C26mB92qC3byB92qC4fyB92qC4haB6n2qC4xaB8aqC45aB9deC3vyB7no2C20ryB;"),
  ("America/Santarem",
   "-13128 -14400 -10800;.10xcdvsB.99ka7cC6ooB6uqC6nyB69heC51cB8hcC4haB91eC4imB91eC3byB41qqC3" ++
    "2mBcg2C26mB92qC3byB92qC4fyB92qC4haB6n2qC4xaB8aqC45aB9deC3vyB7no2C;"),
  ("America/Santiago Chile/Continental",
   "-16965 -18000 -14400 -10800;.yunkudB.3dlssrA.157b79C.f4e0rA.49hzb9C.aye0rB5o2C7umB5o2C7um" ++
    "B5o2C7umB5o2C7vyB5o2C3numB29eC1hhaD1nyC7yqB1w0C8280D5fyC8teD4nyC79eD5paC7s2D5paC81eD5fyC" ++
    "7iqD5ymC81eD5fyC81eD5paC7s2D5paC7s2D5paC81eD5fyC81eD5fyC81eD5paC7s2D5paC7s2D5paC7s2D5paC" ++
    "81eD5fyC81eD5fyC81eD6qmC6qqD5paC7s2D5paC81eD5fyC702D6haC81eD5paC7s2D5paC7s2D5paC7s2D5paC" ++
    "81eD5fyC81eD67yC79eD5paC79eD6zyC702D5paC81eD5fyC81eD5fyC81eD5fyC81eD5paC7s2D5paC7s2D5paC" ++
    "81eD5fyC81eD67yC79eD5paC7s2D6haC702D7ryC3w2D9byC4o2D8taC4xeD8jyC4xeDmtaC3deDa3yC3deDa3yC" ++
    "3deD8taC5peD7ryC5peD7ryC5peD7ryC5yqD;2023 -14400 -10800 9 1 6 86400 4 1 6 86400"),
  ("America/Santo_Domingo",
   "-16776 -16800 -18000 -14400 -16200;.oegzd4B.mkixcoC.hiw29cD4haCzyqE4dbC941E37zCaipE31bCag" ++
    "1E33zCaddE35bCac1D9rteC1aoD;"),
  ("America/Sao_Paulo Brazil/East",
   "-11188 -10800 -7200;.10xccdwB.99k8x8C6ooB6uqC6nyB69heC51cB8hcC4haB91eC4imB91eC3byB4002C4t" ++
    "aBcg2C26mB92qC3byB92qC4fyB92qC4haB6n2qC4xaB8aqC45aB9deC3vyB9c2C3vyB9leC4emB9c2C4emB92qC4" ++
    "5aB9leC3mmB9leC4nyB8teC4nyB8teC4emB8teC4xaB8leC5emB8aqC4xaB8aqC5fyB8aqC4xaB8teC4nyB9leC3" ++
    "vyB92qC4emB9o2C42mB8teC4nyB9leC45aB8k2C4nyB92qC4emB92qC4nyB8teC4nyB8teC4xaB8teC4emB92qC4" ++
    "emB92qC4nyB8teC4nyB8teC4nyB8teC4nyB9leC3vyB;"),
  ("America/Scoresbysund",
   "-5272 -7200 -3600 0;.129n3tkB.x8ntpkC6hcB6qkD6qmC6qoD6qoC6qoD6qoC6qoD700C6qoD6qoC6qoD6qoC" ++
    "6qoD6qoC6qoD6qoC6qoD6qoC6qoD700C6qoD6qoC6qoD6qoC6qoD6qoC6qoD6qoC6qoD6qoC700D7s0C5pcD7s0C" ++
    "5pcD7s0C5pcD81cC5g0D81cC5g0D81cC5pcD7s0C5pcD7s0C5pcD81cC5g0D81cC5g0D81cC5g0D81cC5pcD7s0C" ++
    "5pcD7s0C5pcD81cC5g0D81cC5g0D81cC5pcD7s0C5pcD7s0C5pcD7s0C5pcD81cC5g0D81cC5g0D81cC5pcD7s0C" ++
    "5pcD7s0C5pcD81cC5g0D81cC5g0D81cCdhcB;2025 -7200 -3600 3 5 0 -3600 10 5 0 0"),
  ("America/Sitka",
   "53927 -32473 -28800 -25200 -32400;.cta575Bcc7tC.ln701zD1d7yC8uw2D6qmC6qqD6qmC6qqD6zyC6qqD" ++
    "6qmC6qqD6qmC2leDavyC4eqD92mC6qqD6zyC6heD6zyC6qqD6qmC6qqD6qmC6qqD6qmC6qqD6qmC6qqD6zyC6heD" ++
    "6zyE6qsC6qmE6qqC6qmE6qqC6qmE5yqC7imE5yqC7ryE5peC7ryE5peC7ryE5yqC7imE5yqC7imE5yqC7ryE5peC" ++
    "7ryE5peC7ryE5yqC7imE5yqC7imE5yqC7imE5yqC7ryE5peC7ryE5peC7ryE5yqC7imE5yqC7imE5yqC7ryE5peC" ++
    "7ryE5peC7ryE;2007 -32400 -28800 3 2 0 7200 11 1 0 7200"),
  ("America/St_Johns Canada/Newfoundland",
   "-12652 -9052 -12600 -9000 -5400;.12mpsekB5zyA7qqB79aA72kB3nyA9s2B6qmA6qqB6qmA702B6haA702B" ++
    "6haA702B6haA702B6haA702B6qmA6qqB6qmA702B6haA702B6haA702B6haA702B6haA702B6qmA702B6haA702B" ++
    "6haA5msC.1wfukD6haC79gD5fyC81eD5fyC81eD5fyC8aqD56mC8aqD5fyC81eD5fyC81eD19uqC8aqD5fyC81eD" ++
    "5fyC81eD5fyC81eD5fyC8aqD5fyC7iqD5paC7s2D5paC7s2D5paC7s2D5paC7s2D5paC81eD5paC7s2D5paC7s2D" ++
    "5paC7s2D5paC7s2D6zyC6qqD6qmC6qqD6qmC6qqD6qmC6qqD6qmC6qqD6zyC6heD6zyC6qqD6qmC6qqD6qmC6qqD" ++
    "6qmC6qqD6qmC6qqD6zyC6qqD6qmC6qqD6qmC6qqD6qmC6qqD6qmC6qqD6zyC6heD6zyC6qqD6qmC6qqD6qmC6qqD" ++
    "6qmC6qqD6qmC6qqD6zyC6heD6zyC6qqD6qmC6qqD6qmC6qqD6qmC.8a2loD7imC5yqE7rwC5pgD7ryC5peD7ryC5" ++
    "yqD7imC5yqD7imC5yqD7ryC5peD7ryC5peD7ryC5yqD7imC5yqD7imC5yqD7imC5yqD7ryC5peD7ryC5peD7ryC5" ++
    "yqD7imC5yqD7imC5yqD7ryC5peD7ryC5peD7ryC4xeD8taC4o2D8taC4o2D8taC4xeD8taC4o2D.c8tecC;2012 " ++
    "-12600 -9000 3 2 0 7200 11 1 0 7200"),
  ("America/Swift_Current",
   "-25880 -25200 -21600;.wkrme0B.6l1h14C79aB8r1eC1d7yB7s2C67yB79eC5paB7s2C5paB7s2C5paB2uo2C6" ++
    "qmBk82C6qmB6qqC5paB81eC5fyB3zdeC;"),
  ("America/Tegucigalpa",
   "-20932 -21600 -18000;.14piekkB.yho0ikC5fyB81eC5fyB6m9eC3emB;"),
  ("America/Thule",
   "-16508 -14400 -10800;.129nchoB.12yzilgC6qmB6qqC6qmB702C7ryB5peC7ryB5peC7ryB5yqC7imB5yqC7i" ++
    "mB5yqC7imB5yqC7ryB5peC7ryB5peC7ryB5yqC7imB5yqC7imB5yqC7ryB5peC7ryB5peC7ryB;2007 -14400 -" ++
    "10800 3 2 0 7200 11 1 0 7200"),
  ("America/Ensenada America/Santa_Isabel America/Tijuana Mexico/BajaNorte",
   "-28084 -25200 -28800;.153nr74Br1cC1aiqB1afyC52qB6qmC3yxeB1c6mCwaqBaimChheB5emC81iB5paC7s2" ++
    "B5paC7s0B5pcC7s0B5pcC7s0B5pcC81cB5pcC7s0B5pcC7s0B5pcC7s0B5pcC7s0B5pcC81cB5g0C81cB6qoC6qo" ++
    "B6qoC6qoB6qoC6qoB700C6hcB700C6qqB6qmC6qqB6qmC6qqB6qmC6qqB6qmC6qqB6zyC6qqB6qmC6qqB6qmC2le" ++
    "BavyC4eqB92mC6qqB6zyC6heB6zyC6qqB6qmC6qqB6qmC6qqB6qmC6qqB6qmC6qqB6zyC6heB6zyC6qqB6qmC6qq" ++
    "B6qmC6qqB6qmC5yqB7imC5yqB7ryC5peB7ryC5peB7ryC5yqB7imC5yqB7imC5yqB7ryC5peB7ryC5peB7ryC5yq" ++
    "B7imC5yqB7imC5yqB7imC5yqB7ryC5peB7ryC5peB7ryC5yqB7imC5yqB7imC5yqB7ryC5peB7ryC5peB7ryC5pe" ++
    "B7ryC5yqB7imC5yqB7imC;2010 -28800 -25200 3 2 0 7200 11 1 0 7200"),
  ("America/Montreal America/Nassau America/Nipigon America/Thunder_Bay America/Toronto Canad" ++
   "a/Eastern",
   "-19052 -18000 -14400;.r0eigcB.c5efesC79aB5qlC7qnB706C5fuB8k6C4jyB8xeC4nyB8teC4nyB8k2C56mB" ++
    "8aqC56mB8aqC56mB8aqC5fyB81eC5paB7s2C5paB7s2C5paB7s2C5paB81eC5fyB81eC5paB7s2C5paB7s2C5paB" ++
    "7s2C5paB7s2C5paB7s2C5paB81eC5fyB81eC21daB7s2C5paB7s2C5paB7s2C5paB7s2C81aB5peC7ryB5peC5pa" ++
    "B7s2C5paB7s2C5paB7s2C5paB7s2C5paB81eC5paB7s2C6qmB6qqC6qmB6qqC6qmB6qqC6zyB6qqC6qmB6qqC6qm" ++
    "B6qqC6qmB6qqC6qmB6qqC6zyB6heC6zyB6qqC6qmB6qqC6qmB6qqC6qmB6qqC6qmB6qqC6zyB6qqC6qmB6qqC6qm" ++
    "B6qqC6qmB6qqC6qmB6qqC6zyB6heC6zyB6qqC6qmB6qqC6qmB6qqC6qmB6qqC6qmB6qqC6zyB6heC6zyB6qqC6qm" ++
    "B6qqC6qmB6qqC6qmB5yqC7imB5yqC7ryB5peC7ryB5peC7ryB5yqC7imB5yqC7imB5yqC7ryB5peC7ryB5peC7ry" ++
    "B5yqC7imB5yqC7imB5yqC7imB5yqC7ryB5peC7ryB5peC7ryB5yqC7imB5yqC7imB5yqC7ryB5peC7ryB5peC7ry" ++
    "B;2007 -18000 -14400 3 2 0 7200 11 1 0 7200"),
  ("America/Vancouver Canada/Pacific",
   "-29548 -28800 -25200;.l9pzvwB.hw36b8C79aB8r1eC1d7yB7s2C5paB7s2C5paB7s2C5paB7s2C5paB81eC5f" ++
    "yB81eC5paB7s2C5paB7s2C5paB7s2C5paB7s2C5paB81eC5paB7s2C5paB7s2C5paB7s2C5paB7s2C5paB81eC5f" ++
    "yB81eC6qmB6qqC6qmB6qqC6qmB6qqC6zyB6heC6zyB6qqC6qmB6qqC6qmB6qqC6qmB6qqC6qmB6qqC6zyB6qqC6q" ++
    "mB6qqC6qmB6qqC6qmB6qqC6qmB6qqC6zyB6heC6zyB6qqC6qmB6qqC6qmB6qqC6qmB6qqC6qmB6qqC6zyB6heC6z" ++
    "yB6qqC6qmB6qqC6qmB6qqC6qmB5yqC7imB5yqC7ryB5peC7ryB5peC7ryB5yqC7imB5yqC7imB5yqC7ryB5peC7r" ++
    "yB5peC7ryB5yqC7imB5yqC7imB5yqC7imB5yqC7ryB5peC7ryB5peC7ryB5yqC7imB5yqC7imB5yqC7ryB5peC7r" ++
    "yB5peC7ryB;2007 -28800 -25200 3 2 0 7200 11 1 0 7200"),
  ("America/Whitehorse Canada/Yukon",
   "-32412 -32400 -28800 -25200;.ty823gB.97l6voC79aB7s2C5x6B8dc6C1d7yB7cpaD700B4eoC5bleD6qmC6" ++
    "qqD6qmC6qqD6zyC6heD6zyC6qqD6qmC6qqD6qmC6qqD6qmC5yqD7imC5yqD7ryC5peD7ryC5peD7ryC5yqD7imC5" ++
    "yqD7imC5yqD7ryC5peD7ryC5peD7ryC5yqD7imC5yqD7imC5yqD7imC5yqD7ryC5peD7ryC5peD7ryC5yqD7imC5" ++
    "yqD7imC5yqD7ryC5peD7ryC5peD7ryC4xeD8taC4o2D8taC4o2D8taC4xeD8taC4o2D8taC4o2D8taC4o2D8taC4" ++
    "o2D8taC4o2D8taC4xeD8taC4o2D8taC4o2D8taC4o2D8taC4o2D;"),
  ("America/Rainy_River America/Winnipeg Canada/Central",
   "-23316 -21600 -18000;.n46gesB.f0j80cC5fyBl9iC79aB6yyqC4xaB1n5eC1d7yB8aqC5paB79eC5paB7s2C5" ++
    "paB7s2C5paB82qC5mmB7teC5paB7s2C5paB7s2C5paB7s2C5paB7s2C5paB81eC5paB7s2C5paB7s2C5paB7s2C6" ++
    "qmB6qqC5paBz02C5fyBz02C700B6qoC6qoB6qoC6qoB6qoC6qoB6qoC6qoB6qoC700B6qoC6qoB6qoC6qoB6qoC6" ++
    "qoB6qoC6qoB6qoC700B6hcC700B6qoC6qoB6qoC6qoB6qoC6qoB6qoC6qoB6qoC700B6hcC700B6qoC6qoB6qoC6" ++
    "qoB6qoC6qoB5yoC7ioB5yoC7s0B5pcC7s0B5pcC7s0B5yoC7ioB5yoC7ioB5yoC7s0B5pcC7s0B5pcC7s0B5yoC7" ++
    "ioB5yoC7ioB5yoC7ioB5yoC7s0B5pcC7s0B5pcC7s0B5yoC7ioB5yoC7ioB5yoC7s0B5pcC7s0B5pcC7ryB;2007" ++
    " -21600 -18000 3 2 0 7200 11 1 0 7200"),
  ("America/Yakutat",
   "52865 -33535 -32400 -28800;.cta575B.h4yv3iC.ln720hD1d7yC8uw2D6qmC6qqD6qmC6qqD6zyC6qqD6qmC" ++
    "6qqD6qmC2leDavyC4eqD92mC6qqD6zyC6heD6zyC6qqD6qmC6qqD6qmC6qqD6qmC6qqD6qmC6qqD6zyC6heD6zyC" ++
    "6qqD6qmC6qqD6qmC6qqD6qmC5yqD7imC5yqD7ryC5peD7ryC5peD7ryC5yqD7imC5yqD7imC5yqD7ryC5peD7ryC" ++
    "5peD7ryC5yqD7imC5yqD7imC5yqD7imC5yqD7ryC5peD7ryC5peD7ryC5yqD7imC5yqD7imC5yqD7ryC5peD7ryC" ++
    "5peD7ryC;2007 -32400 -28800 3 2 0 7200 11 1 0 7200"),
  ("Antarctica/Casey",
   "0 28800 39600;.1tmpyf4BfbucC53uBmauC4byB1r3yCipeB7s6C5ygB7g6C5ruB.asw1oC.89wycB.ag5poC.89" ++
    "wycB.ag5poC.84lacB;"),
  ("Antarctica/Davis",
   "0 25200 18000;.1ndvif4B2xiaA1lj2Bfap2C5c2Bm2mC4c2B;"),
  ("Antarctica/Macquarie",
   "0 36000 39600;.tj6mf4B6cswC6hcBrakAaw38B7c0wC6qoB7s0C4xcB8k0C4xcB8k0C56oB8k0C4eoB92oC4o0B" ++
    "8tcC4o0B8tcC4o0B8tcC4xcB8tcC4o0B8tcC4o0B8tcC4o0B8tcC4o0B8tcC4o0B8tcC5pcB81cC5g0B81cC4o0B" ++
    "8tcC4o0B8tcC4o0B8k0C5g0B8aoC5g0B8aoC56oB8aoC56oB8aoC5pcB700C6hcB700C6hcB700C6hcB700C6hcB" ++
    "700C6qoB700C6hcB700C6hcB700C6hcB700C6hcB5pcC7s0B79cC6hcB700C6hcB700C6hcB700C6hcB700C6qoB" ++
    "6qoC6hcB79cC6qoB6qoC6qoB6qoC;2011 36000 39600 10 1 0 7200 4 1 0 10800"),
  ("Antarctica/Mawson",
   "0 21600 18000;.1lv3af4Bkx6gC;"),
  ("Antarctica/Palmer",
   "0 -10800 -14400 -7200;.1rjkef4B26uC8g2B52mC8g2B69aC6qqB6zyC6qqB6qmC6qqB1m6mD3mmB3082C602B" ++
    "5paC7s2B5paC81eB5fyC81eB5fyC81eB6qmC6qqB5paC7s2B5paC81eB5fyC702B6haC81eB5paC7s2B5paC7s2B" ++
    "5paC7s2B5paC81eB5fyC81eB67yC79eB5paC79eB6zyC702B5paC81eB5fyC81eB5fyC81eB5fyC81eB5paC7s2B" ++
    "5paC7s2B5paC81eB5fyC81eB67yC79eB5paC7s2B6haC702B7ryC3w2B9byC4o2B8taC4xeB8jyC4xeBmtaC3deB" ++
    ";"),
  ("Antarctica/Rothera",
   "0 -10800;.1xrfnr4B;"),
  ("Antarctica/Troll",
   "0;;2005 0 7200 3 5 0 3600 10 5 0 10800"),
  ("Antarctica/Vostok",
   "0 25200 18000;.1nv7l34BdkqaAa4eBay12C;"),
  ("Asia/Almaty",
   "18468 18000 21600 25200;.16bgli4B.37a0d0Cj2xaD6ryC6qqD6ryC6qqD6ryC6s2D6qsC6qoD6qoC6qoD6qo" ++
    "C6qoD6qoC6qoD6qoC6qoD6qoC6qoD700CdheB45cC2laD6qoC6qoD6qoC6qoD6qoC6qoD6qoC700D7s0C5pcD7s0" ++
    "C5pcD7s0C5pcD81cC5g0D81cC5g0D81cC5pcD7s0C5pcD7s0C5pcD81cC79ikB;"),
  ("Asia/Amman",
   "8624 7200 10800;.19sq2fkB.m566fkC4byB7uqC5nyB7uqC5nyB7w2C6taB6peC5nyB7teC5nyB2fyqC6ryB6uq" ++
    "C6qmB6qqC6qmB6qqC6zyB7w2C5laB7iqC5ymB76qC61aB79eC6haB6qqC6qmB6qqC67yB7iqC5yoB7ioC680B79c" ++
    "C680B79cC680BalcC35cB6yoC6s0B6pcC6s0B6qoC6qoB6qoC7s0B5pcC7ioB680C6qoB6qoC7s0B5pcC7s0B5pc" ++
    "C81cB5g0C81cB5g0C81cB5pcC7s0B5pcCnbyB3mqC81cB5g0C81cB5pcC7s0B5pcC7s0B5pcC7s0B5pcC7s0B5pc" ++
    "C81cB5g0C81cB4eoC;"),
  ("Asia/Anadyr",
   "42596 43200 46800 50400 39600;.16bg2vwB.379zj8Cj2xaD6ryCdiqB6qqC6ryB6s2C6qsB6qoC6qoB6qoC6" ++
    "qoB6qoC6qoB6qoC6qoB6qoC6qoB6qoC700BdheE45cB2laC6qoB6qoC6qoB6qoC6qoB6qoC6qoB700C7s0B5pcC7" ++
    "s0B5pcC7s0B5pcC81cB5g0C81cB5g0C81cB5pcC7s0B5pcC7s0B5pcC81cB5g0C81cB5g0C81cB5g0C81cB5pcC7" ++
    "s0B5pcC7s0BdqqE5g0B;"),
  ("Asia/Aqtau",
   "12064 14400 18000 21600;.16bgqg0B.379y74Cj9paDdimC6qqD6ryC6s2D6qsC6qoD6qoC6qoD6qoC6qoD6qo" ++
    "C6qoD6qoC6qoD6qoC6qoD700CdheB45cC2laD6qoC6qoD6qoC6qoD6qoB6qqC6qoB700C7s0B5pcC7s0B5pcC7s0" ++
    "B5pcC81cB5g0C81cB5g0C81cB5pcC7s0B5pcC7s0B5pcC;"),
  ("Asia/Aqtobe",
   "13720 14400 18000 21600;.16bgp60B.379zh4Cj2xaDkamC6qqD6ryC6s2D6qsC6qoD6qoC6qoD6qoC6qoD6qo" ++
    "C6qoD6qoC6qoD6qoC6qoD700CdheB45cC2laD6qoC6qoD6qoC6qoD6qoC6qoD6qoC700D7s0C5pcD7s0C5pcD7s0" ++
    "C5pcD81cC5g0D81cC5g0D81cC5pcD7s0C5pcD7s0C5pcD81cC;"),
  ("Asia/Ashgabat Asia/Ashkhabad",
   "14012 14400 18000 21600;.16bgoxwB.379zp8Cj2xaD6ryC6qqD6ryC6qqD6ryC6s2D6qsC6qoD6qoC6qoD6qo" ++
    "C6qoD6qoC6qoD6qoC6qoD6qoC6qoD700CdheB45cC;"),
  ("Asia/Atyrau",
   "12464 10800 18000 21600 14400;.16bgq4wB.37a1a8Cj9p8DdimC6qqD6ryC6s2D6qsC6qoD6qoC6qoD6qoC6" ++
    "qoD6qoC6qoD6qoC6qoD6qoC6qoD700CdheE45cC2laD6qoC6qoD6qoC6qoD6qoC6qoD6qoC700D7s0C5pcD7s0C5" ++
    "pcD7s0CdqqE5g0C81cE5g0C81cE5pcC7s0E5pcC7s0E5pcC;"),
  ("Asia/Baghdad",
   "10660 10656 10800 14400;.oege70B.em11c4C.xkn3w0D5nyC6peD6taC6s2D6ryC6qqD6peC6qoD6qoC6qoD6" ++
    "qoC6qoD6qoC6qoD6qoC6qoD700C6s4D6s0C6s0D6s0C6qoD6s0C6qoD6s0C6qoD6s0C6s0D6s0C6qoD6s0C6qoD6" ++
    "s0C6qoD6s0C6s0D6s0C6qoD6s0C6qoD6s0C6qoD6s0C6s0D6s0C6qoD6s0C6qoD6s0C6qoD6s0C;"),
  ("Asia/Baku",
   "11964 10800 14400 18000;.16bgqisB.h4tkwcC91taD6ryC6qqD6ryC6qqD6ryC6s2D6qsC6qoD6qoC6qoD6qo" ++
    "C6qoD6qoC6qoD6qoC6qoD6qoC6qoD700CdheB6qoC1i6sD7s0C5paD7s0C5pcD7s0C5pcD81cC5g0D81cC5g0D81" ++
    "cC5pcD7s0C5pcD7s0C5pcD81cC5g0D81cC5g0D81cC5g0D81cC5pcD7s0C5pcD7s0C5pcD81cC5g0D81cC5g0D81" ++
    "cC5pcD7s0C5pcD7s0C5pcD7s0C;"),
  ("Asia/Bangkok Asia/Phnom_Penh Asia/Vientiane Indian/Christmas",
   "24124 25200;.146pih0B;"),
  ("Asia/Barnaul",
   "20100 21600 25200 28800;.140wc8sB.5hu6ucCj2xaD6ryC6qqD6ryC6qqD6ryC6s2D6qsC6qoD6qoC6qoD6qo" ++
    "C6qoD6qoC6qoD6qoC6qoD6qoC6qoD700CdheB45cC2laD6qoC6qoD6qoC6qoD6qoC6qoD2buC4ewB700C7s0B5pc" ++
    "C7s0B5pcC7s0B5pcC81cB5g0C81cB5g0C81cB5pcC7s0B5pcC7s0B5pcC81cB5g0C81cB5g0C81cB5g0C81cB5pc" ++
    "C7s0B5pcC7s0B5pcC81cB5g0C1chaBj6qC;"),
  ("Asia/Beirut",
   "8520 7200 10800;.j6jmigB.kzyucoC7taB5xeC6ryB6g2C79aB79eC5fyBcmuqC5nyB7uqC5nyB7uqC5nyB7w2C" ++
    "5nyB7uqC5nyB412qC3qmB7uqC5nyB7uqC5nyB7uqC5nyB7w2C5nyB7uqC5nyB7teC5nyB23k2C67yB7aqC67yB7a" ++
    "qC67yB7aqC67yB8heC52mB7mqC5vyB7aqC67yB7aqC67yB7c2C5ryB6heC6qmB6qqC6qmB6qqC6qmB702C6qmB6q" ++
    "qC6qmB6qqC6qmB;1999 7200 10800 3 5 0 0 10 5 0 0"),
  ("Asia/Bishkek",
   "17904 18000 21600 25200;.16bglxsB.379zxcCj2xaD6ryC6qqD6ryC6qqD6ryC6s2D6qsC6qoD6qoC6qoD6qo" ++
    "C6qoD6qoC6qoD6qoC6qoD6qoC6qoD700CceoB8byC67yB79eC67yB79eC67yB79eC67yB79eC6haB6qvC7ryB5pe" ++
    "C7ryB5peC81aB5g2C81aB5g2C81aB5peC7ryB5peC7ryB5peC81aB5g2C;"),
  ("Asia/Chita",
   "27232 28800 32400 36000;.1415g2oB.5hkxggCj2xaD6ryC6qqD6ryC6qqD6ryC6s2D6qsC6qoD6qoC6qoD6qo" ++
    "C6qoD6qoC6qoD6qoC6qoD6qoC6qoD700CdheB45cC2laD6qoC6qoD6qoC6qoD6qoC6qoD6qoC700D7s0C5pcD7s0" ++
    "C5pcD7s0C5pcD81cC5g0D81cC5g0D81cC5pcD7s0C5pcD7s0C5pcD81cC5g0D81cC5g0D81cC5g0D81cC5pcD7s0" ++
    "C5pcD7s0C5pcD81cC5g0D1chaBj6sC;"),
  ("Asia/Colombo",
   "19164 19172 19800 21600 23400;.j6jeasB.dkh6nsC.isle6kD8unE169fCj0laE5pbD3k2pC;"),
  ("Asia/Damascus",
   "8712 7200 10800;.1421bp4B.5k6q0C67yB79eC67yB79eC67yB79eC6haBehmqC5qmB7uqC5mmB7xeC5nyB7uqC" ++
    "5mmB7mqC5xaB7uqC5nyB7w2C5nyB7uqC5nyB7uqC5nyB7uqC5nyB7w2C5nyB7uqC5nyB7uqC5nyB7uqC5nyB7w2C" ++
    "5nyB7uqC4jyB8yqC4jyB1q9eC6haB72qC6haBimqC8paB5aqC91aB51eC8imB5leC6taB6qqC6qmB6ryC6ryB71e" ++
    "C6imB6iqC6ryB6yqC6ryB6qqC6ryB6s2C6ryB6peC6taB6o2C6umB6qqC6ryB6s2C6ryB6qqC6ryB6qqC6ryB6qq" ++
    "C6ryB6s2C6ryB6qqC6ryB6qqC6fyB702C81aB5peC7taB5eqC81aB5peC7ryB5peC7ryB5peC7ryB5peC7ryB5pe" ++
    "C81aB5g2C81aB5g2C81aB5peC7ryB5peC7ryB5peC7ryB5peC81aB5g2C81aB5g2C;"),
  ("Asia/Dacca Asia/Dhaka",
   "21700 21200 23400 19800 21600 25200;.oeg5ocB.r080dwC.bmgywD41eC3etaElounF780E;"),
  ("Asia/Dili",
   "30140 28800 32400;.zvps74BbbryCcuk0B95qqC;"),
  ("Asia/Dubai Asia/Muscat Indian/Mahe Indian/Reunion",
   "13272 14400;.142186gB;"),
  ("Asia/Dushanbe",
   "16512 18000 21600 25200;.16bgn0gB.379yuoCj2xaD6ryC6qqD6ryC6qqD6ryC6s2D6qsC6qoD6qoC6qoD6qo" ++
    "C6qoD6qoC6qoD6qoC6qoD6qoC6qoD700CcqqB;"),
  ("Asia/Famagusta",
   "8148 7200 10800;.15165gsB.rvhy2cC6qmB802C5imB6g2C6haB702C6ryB6peC6qmB702C6haB6qqC6qmB6qqC" ++
    "6qmB6qqC6qmB6qqC6zyB6qqC6qmB6qqC6qmB6qqC6qmB6qqC6qmB6qqC6qmB6qqC6zyB6qqC6qmB6qqC6qmB6qqC" ++
    "6qmB6qqC6qmB6qqC6qmB702C6qmB6qqC6qmB6qqC7s6B5pcC81cB5g0C81cB5g0C81cB5pcC7s0B5pcC7s0B5pcC" ++
    "81cB5g0C81cB5g0C81cB5g0C81cB5pcC7s0B5pcC7s0B5pcC81cB5g0C81cB5g0C81cB5pcC7s0B5pcC7s0B5pcC" ++
    "7s0B5pcClioB;2018 7200 10800 3 5 0 10800 10 5 0 14400"),
  ("Asia/Gaza",
   "8272 7200 10800;.u0cypcB.kp9t1sC4ioB1qoCqg0B5lcC7xcB5moC7xcB65cC7dcB65cC7dcB3ybwC5byB7uqC" ++
    "5nyB7usC5mqB7xaC5mqB7vyC5mqB7vyC5mqB7vyC5mqB7xaC5mqB7vyC5mqB7vyC5o2B7umC1akB2nw2C3mmB702" ++
    "C4xaB1umqC1k0B1d9cC45cB8k0C56mB9leC45aB85eC5laB7s2C5fyB8teC4nyB7iqC5paB7s2C5ymB7s2C5ymB7" ++
    "peC5ryB7peC5imB7yqC5ryB7yqC680B79cC680B79cC680B7s0C6qmB702C6qmB6qqC6qmB6qqC6qmB6qqC6qmB6" ++
    "qqC680B79cC6deB6mmC6fyB72qC642B7amC5paB7s2C5yoB.ahs1oC.71micB.bzk5oC.69uicB8yqC6hcB700C6" ++
    "qmB6qqC7ryB5qqC7qoB5qqC81aB5g2C81aB5g2C81aB5o0C7taB5peC7s0B5pcC800B5ioC802B6qqC6qmB6heC6" ++
    "zyB682C79aB5peC7ryB5peC81aB5g2C81aB5g2C81aB5peC7ryB5peC7ryB5peC81aB5g2C81aB5g2C81aB5g2C8" ++
    "1aB5peC7imB5yqC79aB;2038 7200 10800 3 4 4 180000 10 4 4 180000"),
  ("Asia/Hebron",
   "8423 7200 10800;.u0cyl5B.kp9t5zC4ioB1qoCqg0B5lcC7xcB5moC7xcB65cC7dcB65cC7dcB3ybwC5byB7uqC" ++
    "5nyB7usC5mqB7xaC5mqB7vyC5mqB7vyC5mqB7vyC5mqB7xaC5mqB7vyC5mqB7vyC5o2B7umC1akB2nw2C3mmB702" ++
    "C4xaB1umqC1k0B1d9cC45cB8k0C56mB9leC45aB85eC5laB7s2C5fyB8teC4nyB7iqC5paB7s2C5ymB7s2C5ymB7" ++
    "peC5ryB7peC5imB7yqC5ryB7yqC680B79cC680B79cC680B7s0C6qmB702C6qmB6qqC6qmB6qqC6qmB6qqC6qmB6" ++
    "qqC680B79cC6deB6mmC6fyB72qC642B7amC5taB7o2C5yoB7ioC53yB.bzk5oC.69uicB12qC15aB6qqC6hcB700" ++
    "C6qmB6qqC7ryB5qqC7qoB5qqC81aB5g2C81aB5g2C81aB5o0C7taB5peC7s0B5pcC800B5ioC802B6qqC6qmB6he" ++
    "C6zyB682C79aB5peC7ryB5peC81aB5g2C81aB5g2C81aB5peC7ryB5peC7ryB5peC81aB5g2C81aB5g2C81aB5g2" ++
    "C81aB5peC7imB5yqC79aB;2038 7200 10800 3 4 4 180000 10 4 4 180000")]

def zoneTableD : List (String × String) := [
  ("Asia/Ho_Chi_Minh Asia/Saigon",
   "25590 25200 28800 32400;.zj45caB.gj25iuCtryD6c0Blc4C33lcB1oxaC5syoB;"),
  ("Asia/Hong_Kong Hongkong",
   "27402 28800 32400 30600;.w4zuz4Bdrg4C400D355C1gqrB5paC8avB4xcC8k0B5pcC6qoB5pcC7s0B5pcC7s0" ++
    "B5pcC7s0B5yoC7s0B5pcC7ryB56qC8amB56qC8jyB4xeC8jyB56qC8amB56qC8amB56qC8amB56qC8jyB4xeC8jy" ++
    "B4xeC8jyB56qC8amB56qC8amB682C6qmB6qqC6qmB6qqC6zyB6qqC6qmB6qqC6qmB6qqC6qmB6qqC6qmB6qqC6zy" ++
    "B6qqC6qmB2leCavyB6qqC6qmB6qqC6qmByqqC5ymB;"),
  ("Asia/Hovd",
   "21996 21600 25200 28800;.wj56s4B.11sncb0C1yymD6ryC6s2D6qmC6qqD6qmC6qqD6qmC6qqD6qmC6qqD6qm" ++
    "C6qqD6qmC6qqD6zyC6qqD6qmC6qqD6qmC6qqD6qmC6qqD6qmC6qqD6qmC702D6qmC6qqD6qmC6qqD6qmCyyuD5pa" ++
    "C6qqD6qmC6qqD6qmC6qqD6qmC6qqD6qmC6qqD6zyC36uqD6qiC6quD6qiC;"),
  ("Asia/Irkutsk",
   "25025 25200 28800 32400;.1439f3zB.5fh175Cj2xaD6ryC6qqD6ryC6qqD6ryC6s2D6qsC6qoD6qoC6qoD6qo" ++
    "C6qoD6qoC6qoD6qoC6qoD6qoC6qoD700CdheB45cC2laD6qoC6qoD6qoC6qoD6qoC6qoD6qoC700D7s0C5pcD7s0" ++
    "C5pcD7s0C5pcD81cC5g0D81cC5g0D81cC5pcD7s0C5pcD7s0C5pcD81cC5g0D81cC5g0D81cC5g0D81cC5pcD7s0" ++
    "C5pcD7s0C5pcD81cC5g0D1chaC;"),
  ("Asia/Jakarta",
   "25632 26400 27000 32400 28800 25200;.1656i1sB3bioC.4wdzjcD1belCz83Er1bC54xdF;"),
  ("Asia/Jayapura",
   "33768 32400 34200;.1ar69p4B.66bqe0C79inB;"),
  ("Asia/Jerusalem Asia/Tel_Aviv Israel",
   "8454 8440 7200 10800 14400;.j6jmkaB.jtxuoeC.bp5aigD4ioC1qoDqg0C5lcD7xcC5moD7xcC65cD7dcC65" ++
    "cD7dcCl2oE3qoD29cC6pcD6tcC65cD5moC7c0D8aoC5yoD6qoC6hcD5pcCa40D3dcCa40D3dcC9uoD4eoC7s0D5g" ++
    "0C6b3wD3mmC702D4xaC1umqD1k0C1d9cD45cC8k0D56mC9leD45aC85eD5laC7s2D5fyC8teD4nyC7iqD5paC7s2" ++
    "D5ymC7s2D5ymC7peD5ryC7peD5imC7yqD5ryC76qD6umC6w2D6jyC6xeD6amC7piD5paC8aqD6h8C6uqD67yC6w2" ++
    "D73yC6deD6zyC6xeD67yC72sD72mC6eqD6taC6o2D6amC76qD72mC6eqD6taC6o2D6amC7g2D6taC6o2D6jyC;20" ++
    "13 7200 10800 3 4 4 93600 10 5 0 7200"),
  ("Asia/Kabul",
   "16608 14400 16200;.oeg9lsB.spc1pcC;"),
  ("Asia/Kamchatka",
   "38076 39600 43200 46800;.15jq11gB.3z045oCj2xaD6ryC6qqD6ryC6qqD6ryC6s2D6qsC6qoD6qoC6qoD6qo" ++
    "C6qoD6qoC6qoD6qoC6qoD6qoC6qoD700CdheB45cC2laD6qoC6qoD6qoC6qoD6qoC6qoD6qoC700D7s0C5pcD7s0" ++
    "C5pcD7s0C5pcD81cC5g0D81cC5g0D81cC5pcD7s0C5pcD7s0C5pcD81cC5g0D81cC5g0D81cC5g0D81cC5pcD7s0" ++
    "C5pcD7s0CdqqB5g0C;"),
  ("Asia/Karachi",
   "16092 19800 23400 18000 21600;.x9sko4B.im3zt0C167yB28leDizepE6qmD24heE5nyD642E7emD;"),
  ("Asia/Kathmandu Asia/Katmandu",
   "20476 19800 20700;.14212mcB.yg2lusC;"),
  ("Asia/Khandyga",
   "32533 28800 32400 36000 39600;.1415bzfB.5hl1jpCj2xaD6ryC6qqD6ryC6qqD6ryC6s2D6qsC6qoD6qoC6" ++
    "qoD6qoC6qoD6qoC6qoD6qoC6qoD6qoC6qoD700CdheB45cC2laD6qoC6qoD6qoC6qoD6qoC6qoD6qoC700D7s0C5" ++
    "pcD7s0C5pcD7s0C5pcD81cC5g0D81cC5g0D81cC5pcD7s0C5pcD7s0C2h8D382E81cD5g0E81cD5g0E81cD5g0E8" ++
    "1cD5pcE7s0D5pcE7s0D5pcE81cD5g0E6aiD166uC;"),
  ("Asia/Calcutta Asia/Kolkata",
   "21208 21200 19270 19800 23400;.5v7sq0B.83glc8C.isc6tmD.innm9aE8daD41eE167yD;"),
  ("Asia/Krasnoyarsk",
   "22286 21600 25200 28800;.142aak2B.5gg8j2Cj2xaD6ryC6qqD6ryC6qqD6ryC6s2D6qsC6qoD6qoC6qoD6qo" ++
    "C6qoD6qoC6qoD6qoC6qoD6qoC6qoD700CdheB45cC2laD6qoC6qoD6qoC6qoD6qoC6qoD6qoC700D7s0C5pcD7s0" ++
    "C5pcD7s0C5pcD81cC5g0D81cC5g0D81cC5pcD7s0C5pcD7s0C5pcD81cC5g0D81cC5g0D81cC5g0D81cC5pcD7s0" ++
    "C5pcD7s0C5pcD81cC5g0D1chaC;"),
  ("Asia/Brunei Asia/Kuching",
   "26480 27000 28800 30000 32400;.179tgnkB.3khwxkC10inD.4ohqoC.e5a9cD.4ohqoC.e3flcD.4ohqoC.e" ++
    "3flcD.4ohqoC.e3flcD.4ohqoC.e5a9cD.4ohqoC.e3flcD.4ohqoC.3ajlcE1camC;"),
  ("Asia/Macao Asia/Macau",
   "27250 28800 32400 36000;.w4zte6B.jdvyoyC4taD7fyC62qD5nyCr2sB7uoC5o0B7g0C8c0B5pcC6qoB5o0C7" ++
    "s0B5pcC7s0B5pcC7tcB5xcC7s0B5pcC7s0B56oC8aoB56oC8k0B4xcC8k7B56qC8amB56qC8amB56qC8amB56qC8" ++
    "jyB4xeC8jyB4xeC8jyB56qC8amB56qC8amB682C6qkB6qsC6qkB6qsC6zyB6qqC6qmB6qqC6qmB6qqC6qmB6qqC6" ++
    "qmB6qqC6zyB6qqC6qmB2leCavyB6qqC6qmB6qqC6qmByqqC5ymB;"),
  ("Asia/Magadan",
   "36192 36000 39600 43200;.16bg7tsB.37a05cCj2xaD6ryC6qqD6ryC6qqD6ryC6s2D6qsC6qoD6qoC6qoD6qo" ++
    "C6qoD6qoC6qoD6qoC6qoD6qoC6qoD700CdheB45cC2laD6qoC6qoD6qoC6qoD6qoC6qoD6qoC700D7s0C5pcD7s0" ++
    "C5pcD7s0C5pcD81cC5g0D81cC5g0D81cC5pcD7s0C5pcD7s0C5pcD81cC5g0D81cC5g0D81cC5g0D81cC5pcD7s0" ++
    "C5pcD7s0C5pcD81cC5g0D1chaBk84C;"),
  ("Asia/Makassar Asia/Ujung_Pandang",
   "28656 28800 32400;.1ar6dn4B.4u87w0C1cymB;"),
  ("Asia/Manila",
   "-57368 29032 28800 32400;.wyyooB.sjc9igCdykoD2taC1uheD1hjyC3542D1zyC8kleD6laC4r9eD2jyC;"),
  ("Asia/Nicosia Europe/Nicosia",
   "8008 7200 10800;.15165koB.rvhxygC6qmB802C5imB6g2C6haB702C6ryB6peC6qmB702C6haB6qqC6qmB6qqC" ++
    "6qmB6qqC6qmB6qqC6zyB6qqC6qmB6qqC6qmB6qqC6qmB6qqC6qmB6qqC6qmB6qqC6zyB6qqC6qmB6qqC6qmB6qqC" ++
    "6qmB6qqC6qmB6qqC6qmB702C6qmB6qqC6qmB6qqC7s6B;1999 7200 10800 3 5 0 10800 10 5 0 14400"),
  ("Asia/Novokuznetsk",
   "20928 21600 25200 28800;.16beoxsB.37bu5cCj2xaD6ryC6qqD6ryC6qqD6ryC6s2D6qsC6qoD6qoC6qoD6qo" ++
    "C6qoD6qoC6qoD6qoC6qoD6qoC6qoD700CdheB45cC2laD6qoC6qoD6qoC6qoD6qoC6qoD6qoC700D7s0C5pcD7s0" ++
    "C5pcD7s0C5pcD81cC5g0D81cC5g0D81cC5pcD7s0C5pcD7s0C5pcD81cC5g0D81cC5g0D81cC5g0D81cC5pcD7s0" ++
    "C5pcD7s0CdqqB5g0C;"),
  ("Asia/Novosibirsk",
   "19900 21600 25200 28800;.14147qcB.5hmbcsCj2xaD6ryC6qqD6ryC6qqD6ryC6s2D6qsC6qoD6qoC6qoD6qo" ++
    "C6qoD6qoC6qoD6qoC6qoD6qoC6qoD700CdheB45cC2laD6qoC6qoD22iC4o8B6qoC6qoB6qoC6qoB700C7s0B5pc" ++
    "C7s0B5pcC7s0B5pcC81cB5g0C81cB5g0C81cB5pcC7s0B5pcC7s0B5pcC81cB5g0C81cB5g0C81cB5g0C81cB5pc" ++
    "C7s0B5pcC7s0B5pcC81cB5g0C1chaBnleC;"),
  ("Asia/Omsk",
   "17610 18000 21600 25200;.13zk8tyB.5j6d16Cj2xaD6ryC6qqD6ryC6qqD6ryC6s2D6qsC6qoD6qoC6qoD6qo" ++
    "C6qoD6qoC6qoD6qoC6qoD6qoC6qoD700CdheB45cC2laD6qoC6qoD6qoC6qoD6qoC6qoD6qoC700D7s0C5pcD7s0" ++
    "C5pcD7s0C5pcD81cC5g0D81cC5g0D81cC5pcD7s0C5pcD7s0C5pcD81cC5g0D81cC5g0D81cC5g0D81cC5pcD7s0" ++
    "C5pcD7s0C5pcD81cC5g0D1chaC;"),
  ("Asia/Oral",
   "12324 10800 18000 21600 14400;.16bgq8sB.37a16cCj2x8DkamC6qqD6ryC6s2D6qsC6qoD6qoC6qoD6qoC6" ++
    "qoD6qoC6qoD6qoCdheE6qoC700E6qoC6qoE45cC9c0E6qoC6qoE6qoC6qoE6qoC6qoE700C7s0E5pcC7s0E5pcC7" ++
    "s0E5pcC81cE5g0C81cE5g0C81cE5pcC7s0E5pcC7s0E5pcC;"),
  ("Asia/Pontianak",
   "26240 27000 32400 28800 25200;.1ar6fi8B.4tnu2wC1dd9Bz83Dr1bB54xdD90nzE;"),
  ("Asia/Pyongyang",
   "30180 30600 32400;.xx8pssB.1yh10cC12xqnB10tcC;"),
  ("Asia/Bahrain Asia/Qatar",
   "12368 14400 10800;.14218vkB.rctnrkC;"),
  ("Asia/Qostanay",
   "15268 14400 18000 21600;.16bgnz0B.37a0o4Cj2xaDkamC6qqD6ryC6s2D6qsC6qoD6qoC6qoD6qoC6qoD6qo" ++
    "C6qoD6qoC6qoD6qoC6qoD700CdheB45cC2laD6qoC6qoD6qoC6qoD6qoC6qoD6qoC700D7s0C5pcD7s0C5pcD7s0" ++
    "C5pcD81cC5g0D81cC5g0D81cC5pcD7s0C5pcD7s0C5pcD7hjuC;"),
  ("Asia/Qyzylorda",
   "15712 14400 18000 21600;.16bgnmoB.37a10gCj2xaDkamC6qqD6ryC6s2D6qsC6qoD6qoC6qoD6qoC6qoD6qo" ++
    "C6qoD6qoC6qoD6qoC6qoD700ChmoD9c0C6qoD6qoC6qoD6qoC6qoD6qoC700D7s0C5pcD7s0C5pcD7s0C5pcD81c" ++
    "C5g0D81cC5g0D81cC5pcD7s0C5pcD7s0C5pcD5jaiC;"),
  ("Antarctica/Syowa Asia/Aden Asia/Kuwait Asia/Riyadh",
   "11212 10800;.1i91kfoB;"),
  ("Asia/Sakhalin",
   "34248 32400 39600 43200 36000;.wk9nzsB.kvnarcCddl8D6ryC6qqD6ryC6qqD6ryC6s2D6qsC6qoD6qoC6q" ++
    "oD6qoC6qoD6qoC6qoD6qoC6qoD6qoC6qoD700CdheE45cC2laD6qoC6qoD6qoC6qoD6qoC6qoD6qoC700D7s0Cdh" ++
    "eE5pcC7s0E5pcC81cE5g0C81cE5g0C81cE5pcC7s0E5pcC7s0E5pcC81cE5g0C81cE5g0C81cE5g0C81cE5pcC7s" ++
    "0E5pcC7s0E5pcC81cE5g0C1chaEj6qC;"),
  ("Asia/Samarkand",
   "16073 14400 18000 21600;.16bgncnB.37a1ahCj2xaDkamC6qqD6ryC6s2D6qsC6qoD6qoC6qoD6qoC6qoD6qo" ++
    "C6qoD6qoC6qoD6qoC6qoD700C6qoD6qoC;"),
  ("Asia/Seoul ROK",
   "30472 30600 32400 36000 34200;.xx8pkoB.1yh18gCdomnD3umC7heD5ymC7heD5zyC8teD4nyCy82Bf6pE4p" ++
    "aB9eqE4xaB81eE56mB8aqE56mB8aqE56mB8aqE56mBc2qC9oarD5pcC7s0D5pcC;"),
  ("Asia/Chongqing Asia/Chungking Asia/Harbin Asia/Shanghai PRC",
   "29143 28800 32400;.u52vxlB.9jeyxjC6byB7rleC4ymB5o2C8laB3c2C1cimB9g2C55aB79eC7emB6qqC5nyB7" ++
    "uqCzyBdvmuC4xaB7s2C5paB81eC5fyB81eC5paB7s2C5paB7s2C5paB;"),
  ("Asia/Kuala_Lumpur Asia/Singapore Singapore",
   "24925 25200 26400 27000 32400 28800;.wg05urB.eeb94dC.4it32oD.8n3jcE1calDdn42F;"),
  ("Asia/Srednekolymsk",
   "36892 36000 39600 43200;.16bg7acB.37a0osCj2xaD6ryC6qqD6ryC6qqD6ryC6s2D6qsC6qoD6qoC6qoD6qo" ++
    "C6qoD6qoC6qoD6qoC6qoD6qoC6qoD700CdheB45cC2laD6qoC6qoD6qoC6qoD6qoC6qoD6qoC700D7s0C5pcD7s0" ++
    "C5pcD7s0C5pcD81cC5g0D81cC5g0D81cC5pcD7s0C5pcD7s0C5pcD81cC5g0D81cC5g0D81cC5g0D81cC5pcD7s0" ++
    "C5pcD7s0C5pcD81cC5g0D1chaC;"),
  ("Asia/Taipei ROC",
   "29160 28800 32400;.rj5el4B.lsd1m0C2zuoB8qoC55aB79eC7emB6qqC5nyB7uqC5nyB7uqC5nyB7uqC5nyB5m" ++
    "qC92mB5leC7xaB5leC7xaB5leC6ryB6s2C6ryB6qqC6ryB6qqC6ryB6qqC6ryB91eC4imB902C4imB4p2qC6ryB6" ++
    "qqC6ryB1epeC3emB;"),
  ("Asia/Tashkent",
   "16631 18000 21600 25200;.16bgmx5B.379yxzCj2xaD6ryC6qqD6ryC6qqD6ryC6s2D6qsC6qoD6qoC6qoD6qo" ++
    "C6qoD6qoC6qoD6qoC6qoD6qoC6qoD700CdheB;"),
  ("Asia/Tbilisi",
   "10751 10800 14400 18000;.16bgrghB.h4tjynC91taD6ryC6qqD6ryC6qqD6ryC6s2D6qsC6qoD6qoC6qoD6qo" ++
    "C6qoD6qoC6qoD6qoC6qoD6qoC6qoD700CdheB6qkC6qmB6qqC6qmB6qqCdhaD6qmC702Dl9aC5peD7ryC5peD81a" ++
    "C5g2D81aC5g2D81aC5peD7ryC5peD7ryC5peD3daC4o8B5g0C;"),
  ("Asia/Tehran Iran",
   "12344 12600 16200 14400 18000;.1c49e88B.lsvh0wC7w0D5qpE4xcD3moB7apC49aB6teC6vyB3zheC59aB6" ++
    "qqC6taB6peC6taB6peC6taB6peC6taB6peC6taB6qqC6taB6peC6taB6peC6taB6peC6taB6qqC6taB6peC6taB6" ++
    "peC6taB6peC6taB6qqC6taBxqqC6taB6qqC6taB6peC6taB6peC6taB6peC6taB6qqC6taB6peC6taB6peC6taB6" ++
    "peC6taB6qqC6taB6peC6taB6peC6taB6peC6taB6qqC6taB6peC6taB;"),
  ("Asia/Thimbu Asia/Thimphu",
   "21516 19800 21600;.1igyj5gB.kxymnoC;"),
  ("Asia/Tokyo Japan",
   "33539 32400 36000;.ncu834Bmo5cC4xcB7ioC5yoB8tcC4o0B8tcC4o0B;"),
  ("Asia/Tomsk",
   "20391 21600 25200 28800;.141ik0pB.5h7z2fCj2xaD6ryC6qqD6ryC6qqD6ryC6s2D6qsC6qoD6qoC6qoD6qo" ++
    "C6qoD6qoC6qoD6qoC6qoD6qoC6qoD700CdheB45cC2laD6qoC6qoD6qoC6qoD6qoC6qoD6qoC700D7s0C5pcD7s0" ++
    "C5pcD7s0C5pcD81cC5g0D81cC5g0D81cC5pcD15cC6mqB5pcC7s0B5pcC81cB5g0C81cB5g0C81cB5g0C81cB5pc" ++
    "C7s0B5pcC7s0B5pcC81cB5g0C1chaBliqC;"),
  ("Asia/Choibalsan Asia/Ulaanbaatar Asia/Ulan_Bator",
   "25652 25200 28800 32400;.wj53ykB.11sncckC1yymD6ryC6s2D6qmC6qqD6qmC6qqD6qmC6qqD6qmC6qqD6qm" ++
    "C6qqD6qmC6qqD6zyC6qqD6qmC6qqD6qmC6qqD6qmC6qqD6qmC6qqD6qmC702D6qmC6qqD6qmC6qqD6qmCyyuD5pa" ++
    "C6qqD6qmC6qqD6qmC6qqD6qmC6qqD6qmC6qqD6zyC36uqD6qiC6quD6qiC;"),
  ("Asia/Kashgar Asia/Urumqi",
   "21020 21600;.188c678B;"),
  ("Asia/Ust-Nera",
   "34374 28800 32400 43200 39600 36000;.1415akaB.5hl2yuCj2xaD6ruE6qqD6ryE6qqD6ryE6s2D6qsE6qo" ++
    "D6qoE6qoD6qoE6qoD6qoE6qoD6qoE6qoD6qoE6qoD700EdheF45cE2laD6qoE6qoD6qoE6qoD6qoE6qoD6qoE700" ++
    "D7s0E5pcD7s0E5pcD7s0E5pcD81cE5g0D81cE5g0D81cE5pcD7s0E5pcD7s0E5pcD81cE5g0D81cE5g0D81cE5g0" ++
    "D81cE5pcD7s0E5pcD7s0E5pcD81cE5g0D6aiE166uF;"),
  ("Asia/Vladivostok",
   "31651 32400 36000 39600;.15jzfbxB.3yqvf7Cj2xaD6ryC6qqD6ryC6qqD6ryC6s2D6qsC6qoD6qoC6qoD6qo" ++
    "C6qoD6qoC6qoD6qoC6qoD6qoC6qoD700CdheB45cC2laD6qoC6qoD6qoC6qoD6qoC6qoD6qoC700D7s0C5pcD7s0" ++
    "C5pcD7s0C5pcD81cC5g0D81cC5g0D81cC5pcD7s0C5pcD7s0C5pcD81cC5g0D81cC5g0D81cC5g0D81cC5pcD7s0" ++
    "C5pcD7s0C5pcD81cC5g0D1chaC;"),
  ("Asia/Yakutsk",
   "31138 28800 32400 36000;.1415d26B.5hl0gyCj2xaD6ryC6qqD6ryC6qqD6ryC6s2D6qsC6qoD6qoC6qoD6qo" ++
    "C6qoD6qoC6qoD6qoC6qoD6qoC6qoD700CdheB45cC2laD6qoC6qoD6qoC6qoD6qoC6qoD6qoC700D7s0C5pcD7s0" ++
    "C5pcD7s0C5pcD81cC5g0D81cC5g0D81cC5pcD7s0C5pcD7s0C5pcD81cC5g0D81cC5g0D81cC5g0D81cC5pcD7s0" ++
    "C5pcD7s0C5pcD81cC5g0D1chaC;"),
  ("Asia/Rangoon Asia/Yangon Indian/Cocos",
   "23087 23400 32400;.14210ltB.bnjp3bC14nvB;"),
  ("Asia/Yekaterinburg",
   "14553 13505 14400 18000 21600;.128cduvB.1kybx4C.5pfyv5Dj2xaE6ryD6qqE6ryD6qqE6ryD6s2E6qsD6" ++
    "qoE6qoD6qoE6qoD6qoE6qoD6qoE6qoD6qoE6qoD6qoE700DdheC45cD2laE6qoD6qoE6qoD6qoE6qoD6qoE6qoD7" ++
    "00E7s0D5pcE7s0D5pcE7s0D5pcE81cD5g0E81cD5g0E81cD5pcE7s0D5pcE7s0D5pcE81cD5g0E81cD5g0E81cD5" ++
    "g0E81cD5pcE7s0D5pcE7s0D5pcE81cD5g0E1chaD;"),
  ("Asia/Yerevan",
   "10680 10800 14400 18000;.16bgrigB.h4tjwoC91taD6ryC6qqD6ryC6qqD6ryC6s2D6qsC6qoD6qoC6qoD6qo" ++
    "C6qoD6qoC6qoD6qoC6qoD6qoC6qoD700CdheB6qoC6qoB6qoC6qoB6qoC6qoB6qoCr7yD7s0C5pcD7s0C5pcD81c" ++
    "C5g0D81cC5g0D81cC5pcD7s0C5pcD7s0C5pcD81cC5g0D81cC5g0D81cC5g0D81cC5pcD7s0C5pcD7s0C5pcD81c" ++
    "C5g0D81cC;"),
  ("Atlantic/Azores",
   "-6160 -6872 -7200 -3600 0 3600;.l9phu8B.em124wC1odaD51eC4g0D8fyC52qD8fyC52qD8fyC542D8fyC5" ++
    "2qD8fyCxw0D6c0CkqoD680C700D6hcC79cD6hcC79cD680CkqoD680C6qoD6qoCkhcD6qoC6hcD700C79cD680C6" ++
    "qoD6qoC6hcD700C79cD81cC3moD8dcC6o0D6s0C5xcD1jyE45cD2leC56oD1amE4xcD2c2C4xcD1jyE4o0D2c2C4" ++
    "xcD1jyE4o0D2c2C5yoD6qoC6quD6qoC6qoD6qoC6qoD6qoC6qoD6qoC6qoD700C6qoD6qoC6qoD6qoC6qoD6qoC6" ++
    "qoD6qoC6qoD700C6qoD6qoC6qoD6qoC6qoD6qoC6qoD6qoC6qoD6qoC6qoD700C6qoD6qoC6qoD6qoC6qoD6qoC6" ++
    "qoD607uE6qoD6qoE6qoD6qoE700D6qoE6qoD6qoE6qoD6qoE6qoD6qoE6qoD6qoE6qoD6qoE700D6qoE6qoD6qoE" ++
    "6qoD3deE3daF300E3qoD6qoE6qoD6qoE6qoD;1996 -3600 0 3 5 0 0 10 5 0 3600"),
  ("Atlantic/Bermuda",
   "-15558 -11958 -14400 -10800;.12mlzraB6laA782B5qmA48s6C.69z5ruDadaC5peD8amC4xeD8taC4o2D8ta" ++
    "CkqqD4emC9c2D3vyC9leD3vyC9uqD3mmC9uqD3mmC9uqD3vyC1eaqD5paC6kpeD6qmC6qqD6qmC6qqD6zyC6heD6" ++
    "zyC6qqD6qmC6qqD6qmC6qqD6qmC6qqD6qmC6qqD6zyC6heD6zyC6qqD6qmC6qqD6qmC6qqD6qmC5yqD7imC5yqD7" ++
    "ryC5peD7ryC5peD7ryC5yqD7imC5yqD7imC5yqD7ryC5peD7ryC5peD7ryC5yqD7imC5yqD7imC5yqD7imC5yqD7" ++
    "ryC5peD7ryC5peD7ryC5yqD7imC5yqD7imC5yqD7ryC5peD7ryC5peD7ryC;2007 -14400 -10800 3 2 0 720" ++
    "0 11 1 0 7200"),
  ("Atlantic/Canary",
   "-3696 -3600 0 3600;.156ojxsB.ctvupcCclekD6heC6qoD6qoC6qoD6qoC6qoD6qoC6qoD700C6qoD6qoC6qoD" ++
    "6qoC6qoD6qoC6qoD6qoC6qoD6qoC6qoD700C6qoD6qoC6qoD6qoC6qoD6qoC6qoD6qoC6qoD6qoC;1996 0 3600" ++
    " 3 5 0 3600 10 5 0 7200"),
  ("Atlantic/Cape_Verde",
   "-5644 -7200 -3600;.zvqjz4BbiuoC167yBbbc6C;"),
  ("Atlantic/Faeroe Atlantic/Faroe",
   "-1624 0 3600;.xt3ec8B.127keuwC6qoB6qoC6qoB6qoC6qoB6qoC700B6qoC6qoB6qoC6qoB6qoC6qoB6qoC6qo" ++
    "B6qoC6qoB6qoC700B6qoC6qoB6qoC6qoB6qoC6qoB6qoC6qoB6qoC6qoB;1996 0 3600 3 5 0 3600 10 5 0 " ++
    "7200"),
  ("Atlantic/Madeira",
   "-4056 -3600 0 3600;.zvqh74B1odaC51eB4g0C8fyB52qC8fyB52qC8fyB542C8fyB52qC8fyBxw0C6c0BkqoC6" ++
    "80B700C6hcB79cC6hcB79cC680BkqoC680B6qoC6qoBkhcC6qoB6hcC700B79cC680B6qoC6qoB6hcC700B79cC8" ++
    "1cB3moC8dcB6o0C6s0B5xcC1jyD45cC2leB56oC1amD4xcC2c2B4xcC1jyD4o0C2c2B4xcC1jyD4o0C2c2B5yoC6" ++
    "qoB6quC6qoB6qoC6qoB6qoC6qoB6qoC6qoB6qoC700B6qoC6qoB6qoC6qoB6qoC6qoB6qoC6qoB6qoC700B6qoC6" ++
    "qoB6qoC6qoB6qoC6qoB6qoC6qoB6qoC6qoB6qoC700B6qoC6qoB6qoC6qoB6qoC6qoB6qoC60h6D6hcC6qoD6qoC" ++
    "6qoD700C6qoD6qoC6qoD6qqC6qoD6qoC6qoD6qoC6qoD6qoC6qoD700C6qoD6qoC6qoD6qoC6qoD6qoC6qoD6qoC" ++
    "6qoD6qoC;1996 0 3600 3 5 0 3600 10 5 0 7200")]

def zoneTableE : List (String × String) := [
  ("Atlantic/South_Georgia",
   "-8768 -7200;.oegt6oB;"),
  ("Atlantic/Stanley",
   "-13884 -14400 -10800 -7200;.zze6gsB.dbvxqcC6haB702C6haB79eC6haB702C6haB702C6haB702C3jyBf5" ++
    "k2C5fyD81aC56qD8amCd82B5g2C81aB5g2C81aB5g2C81aB5g2C8amB56qC8amB5g2C81aB5g2C81aB5g2C81aB5" ++
    "g2C81aB5g2C8amB5g2C81aB5g2C81aB5g2C81aB5g2C81aB5g2C81eB56qC8jyB4xeC8jyB56qC8amB56qC8amB5" ++
    "6qC8amB56qC8amB56qC8jyB56qC8amB56qC8amB56qC;"),
  ("Australia/Adelaide Australia/South",
   "33260 32400 34200 37800;.r1ysr8B.27qdzwC6n1fD32oC9b40D380C6qoD6qoC700D6hcCadc0D4eoC92oD4o" ++
    "0C8tcD4o0C8tcD4o0C8tcD4xcC8tcD4o0C8tcD4o0C8tcD4o0C8tcD4o0C8tcD4o0C8tcD4xcC8tcD4o0C8tcD4o" ++
    "0C8tcD4o0C8tcD56oC81cD5g0C8aoD5g0C8aoD56oC8aoD56oC8aoD4o0C8tcD5g0C81cD4xcC8tcD56oC8aoD5g" ++
    "0C81cD5pcC7s0D5pcC7s0D5pcC7s0D5pcC81cD5g0C81cD5g0C81cD5pcC7s0D5pcC7s0D5pcC81cD5g0C81cD5p" ++
    "cC7s0D5g0C81cD;2008 34200 37800 10 1 0 7200 4 1 0 10800"),
  ("Australia/Brisbane Australia/Queensland",
   "36728 36000 39600;.r0dbewB.bhbss8C32oB9b40C380B6qoC6qoB700C6hcBadc0C4eoB6n1cC4o0B8tcC4o0B" ++
    "8tcC4o0B;"),
  ("Australia/Broken_Hill Australia/Yancowinna",
   "33948 36000 32400 34200 37800;.r1ys84B.t9nr0C10c2D6n1fE32oD9b40E380D6qoE6qoD700E6hcDadc0E" ++
    "4eoD92oE4o0D8tcE4o0D8tcE4o0D8tcE4xcD8tcE4o0D8tcE4o0D8tcE4o0D8tcE4o0D8tcE4o0D8tcE5yoD7s0E" ++
    "4o0D8tcE4o0D8tcE4o0D8tcE56oD81cE5g0D8aoE5g0D8aoE56oD8aoE4o0D8tcE4o0D8tcE4o0D8tcE4xcD8tcE" ++
    "4o0D8tcE4o0D8tcE5pcD7s0E5pcD7s0E5pcD7s0E5pcD81cE5g0D81cE5g0D81cE5pcD7s0E5pcD7s0E5pcD81cE" ++
    "5g0D81cE5pcD7s0E5g0D81cE;2008 34200 37800 10 1 0 7200 4 1 0 10800"),
  ("Australia/Darwin Australia/North",
   "31400 32400 34200 37800;.r1yu6wB.27qck8C6n1fD32oC9b40D380C6qoD6qoC700D6hcC;"),
  ("Australia/Eucla",
   "30928 31500 35100;.rhjyk0B.b05944C32oB9b40C380B6qoC6qoBbv9cC4o0B396oC4o0B2w80C3w0B5jmoC45" ++
    "cB81cC5pcB7s0C5pcB;"),
  ("Australia/Currie Australia/Hobart Australia/Tasmania",
   "35356 36000 39600;.rcvch0B.b03ee4C6hcB81cC4o0B8tcC4o0B8kxcC380B6qoC6qoB700C6hcB8u40C6qoB7" ++
    "s0C4xcB8k0C4xcB8k0C56oB8k0C4eoB92oC4o0B8tcC4o0B8tcC4o0B8tcC4xcB8tcC4o0B8tcC4o0B8tcC4o0B8" ++
    "tcC4o0B8tcC4o0B8tcC5pcB81cC5g0B81cC4o0B8tcC4o0B8tcC4o0B8k0C5g0B8aoC5g0B8aoC56oB8aoC56oB8" ++
    "aoC5pcB700C6hcB700C6hcB700C6hcB700C6hcB700C6qoB700C6hcB700C6hcB700C6hcB700C6hcB5pcC7s0B7" ++
    "9cC6hcB700C6hcB700C6hcB700C6hcB700C6qoB6qoC6hcB79cC;2008 36000 39600 10 1 0 7200 4 1 0 1" ++
    "0800"),
  ("Australia/Lindeman",
   "35756 36000 39600;.r0dc5wB.bhbs18C32oB9b40C380B6qoC6qoB700C6hcBadc0C4eoB6n1cC4o0B8tcC4o0B" ++
    "8tcC4o0B8tcC4xcB8tcC4o0B;"),
  ("Australia/LHI Australia/Lord_Howe",
   "38180 36000 37800 41400 39600;.r1yoykB.18x8f0kC8tfD4xaC8teD4nyC8teD4nyC8teD4nyC8teE56nC81" ++
    "dE5fzC8apE5fzC8apE56nC8apE4nzC8tdE4nzC8tdE4nzC8tdE4xbC8tdE4nzC8tdE4nzC8tdE5pbC7s1E5pbC7s" ++
    "1E5pbC7s1E5pbC81dE5fzC5pdE7rzC81dE5pbC7s1E5pbC7s1E5pbC81dE5fzC81dE5pbC7s1E5fzC81dE;2008 " ++
    "37800 39600 10 1 0 7200 4 1 0 7200"),
  ("Australia/Melbourne Australia/Victoria",
   "34792 36000 39600;.r1yrkoB.bfqcmgC32oB9b40C380B6qoC6qoB700C6hcBadc0C4eoB92oC4o0B8tcC4o0B8" ++
    "tcC4o0B8tcC4xcB8tcC4o0B8tcC4o0B8tcC4o0B8tcC4o0B8tcC4o0B8tcC4xcB8tcC4o0B8tcC4o0B8tcC4o0B8" ++
    "tcC56oB81cC5g0B81cC5pcB8aoC56oB8aoC56oB8aoC4o0B8tcC4o0B8tcC4xcB8tcC4o0B8tcC5g0B81cC5pcB7" ++
    "s0C5pcB7s0C5pcB7s0C5pcB81cC5g0B5pcC7s0B81cC5pcB7s0C5pcB7s0C5pcB81cC5g0B81cC5pcB7s0C5g0B8" ++
    "1cC;2008 36000 39600 10 1 0 7200 4 1 0 10800"),
  ("Australia/Perth Australia/West",
   "27804 28800 32400;.rhk0ysB.b058scC32oB9b40C380B6qoC6qoBbv9cC4o0B396oC4o0B2w80C3w0B5jmoC45" ++
    "cB81cC5pcB7s0C5pcB;"),
  ("Australia/ACT Australia/Canberra Australia/NSW Australia/Sydney",
   "36292 36000 39600;.r1yqf0B.bfqds4C32oB9b40C380B6qoC6qoB700C6hcBadc0C4eoB92oC4o0B8tcC4o0B8" ++
    "tcC4o0B8tcC4xcB8tcC4o0B8tcC4o0B8tcC4o0B8tcC4o0B8tcC4o0B8tcC5yoB7s0C4o0B8tcC4o0B8tcC4o0B8" ++
    "tcC56oB81cC5g0B8aoC5g0B8aoC56oB8aoC4o0B8tcC4o0B8tcC4o0B8tcC4xcB8tcC4o0B8tcC4o0B8tcC5pcB7" ++
    "s0C5pcB7s0C5pcB7s0C5pcB81cC5g0B5pcC7s0B81cC5pcB7s0C5pcB7s0C5pcB81cC5g0B81cC5pcB7s0C5g0B8" ++
    "1cC;2008 36000 39600 10 1 0 7200 4 1 0 10800"),
  ("Etc/GMT Etc/GMT+0 Etc/GMT-0 Etc/GMT0 Etc/Greenwich GMT GMT+0 GMT-0 GMT0 Greenwich",
   "0;;"),
  ("Etc/GMT+1",
   "-3600;;"),
  ("Etc/GMT+10",
   "-36000;;"),
  ("Etc/GMT+11",
   "-39600;;"),
  ("Etc/GMT+12",
   "-43200;;"),
  ("Etc/GMT+2",
   "-7200;;"),
  ("Etc/GMT+3",
   "-10800;;"),
  ("Etc/GMT+4",
   "-14400;;"),
  ("Etc/GMT+5",
   "-18000;;"),
  ("Etc/GMT+6",
   "-21600;;"),
  ("Etc/GMT+7",
   "-25200;;"),
  ("Etc/GMT+8",
   "-28800;;"),
  ("Etc/GMT+9",
   "-32400;;"),
  ("Etc/GMT-1",
   "3600;;"),
  ("Etc/GMT-10",
   "36000;;"),
  ("Etc/GMT-11",
   "39600;;"),
  ("Etc/GMT-12",
   "43200;;"),
  ("Etc/GMT-13",
   "46800;;"),
  ("Etc/GMT-14",
   "50400;;"),
  ("Etc/GMT-2",
   "7200;;"),
  ("Etc/GMT-3",
   "10800;;"),
  ("Etc/GMT-4",
   "14400;;"),
  ("Etc/GMT-5",
   "18000;;"),
  ("Etc/GMT-6",
   "21600;;"),
  ("Etc/GMT-7",
   "25200;;"),
  ("Etc/GMT-8",
   "28800;;"),
  ("Etc/GMT-9",
   "32400;;"),
  ("Etc/UCT Etc/UTC Etc/Universal Etc/Zulu UCT UTC Universal Zulu",
   "0;;"),
  ("Europe/Andorra",
   "364 0 3600 7200;.u53i50B.nvgqy4CegteD6qoC6qoD6qoC6qoD6qoC6qoD6qoC6qoD6qoC6qoD700C6qoD6qoC" ++
    "6qoD6qoC6qoD6qoC6qoD6qoC6qoD6qoC;1996 3600 7200 3 5 0 7200 10 5 0 10800"),
  ("Europe/Astrakhan",
   "11532 10800 14400 18000;.16bew6sB.37bv8cCj2xaD6ryC6qqD6ryC6qqD6ryC6s2D6qsC6qoD6qoC6qoD6qo" ++
    "C6qoD6qoC6qoD6qoCdheB6qoC700B6qoCk80B6qoC6qoB6qoC6qoB6qoC6qoB700C7s0B5pcC7s0B5pcC7s0B5pc" ++
    "C81cB5g0C81cB5g0C81cB5pcC7s0B5pcC7s0B5pcC81cB5g0C81cB5g0C81cB5g0C81cB5pcC7s0B5pcC7s0B5pc" ++
    "C81cB5g0C1chaBj6qC;"),
  ("EET Europe/Athens",
   "5692 7200 10800 3600;.129mveoB.8bjasgC22mB38aqCumBkewD5h8B6ymD6s2B33haC4laB8fk2C8g0B52sC6" ++
    "qoB6hcC6ioB6yoC6heB70cC6owB6umC6nyB6qwC6qoB6qoC6qoB6qoC6qoB6qoC700B6qoC6qoB6qoC6qoB6qoC6" ++
    "qoB6qoC6qoB6qoC6qoB6qoC700B6qoC6qoB6qoC6qoB6qoC6qoB6qoC6qoB6qoC6qoB;1996 7200 10800 3 5 " ++
    "0 10800 10 5 0 14400"),
  ("Europe/Belgrade Europe/Ljubljana Europe/Podgorica Europe/Sarajevo Europe/Skopje Europe/Za" ++
   "greb",
   "4920 3600 7200;.l9p9agB.twhnkoCktiB5g0C700B6qoC6qoB82oC4uoBe3moC6qoB6qoC700B6qoC6qoB6qoC6" ++
    "qoB6qoC6qoB6qoC6qoB6qoC6qoB6qoC700B6qoC6qoB6qoC6qoB6qoC6qoB6qoC6qoB6qoC6qoB;1996 3600 72" ++
    "00 3 5 0 7200 10 5 0 10800"),
  ("Arctic/Longyearbyen Atlantic/Jan_Mayen Europe/Berlin Europe/Copenhagen Europe/Oslo Europe" ++
   "/Stockholm",
   "3208 3600 7200 10800;.q3gum0B.c1n0x4C5o2B7asC5pcB7s0C5pcB83eoCz00B5g0C700B6qoC6qoB6qoC1xa" ++
    "D4k0C21eB5g0C6ioB6peC1amD1taC3mqB79cC680B700C6hcBbgqoC6hcB6qoC6qoB6qoC6qoB6qoC6qoB6qoC70" ++
    "0B6qoC6qoB6qoC6qoB6qoC6qoB6qoC6qoB6qoC6qoB6qoC700B6qoC6qoB6qoC6qoB6qoC6qoB6qoC6qoB6qoC6q" ++
    "oB;1996 3600 7200 3 5 0 7200 10 5 0 10800"),
  ("CET Europe/Amsterdam Europe/Brussels Europe/Luxembourg MET",
   "1050 0 3600 7200;.pm8jr4B8gmoCjzyD5o0C7asD5pcC7s0D5pcC238B43cC81cB4xcC9c0B59cC8c0B5lcC79c" ++
    "B79cC680B6hcC700B6qoC6qoB79cC680B700C6hcB79cC6hiB79cC680B700C6hcB79cC680B6qoC6qoB6hcC79c" ++
    "B6qoC6qoB6hcC700B79cC680B6qoC6qoB6hcC700B79cC81cB3moC35cDx6mC5g0D700C6qoD66oC7aoD66oC92o" ++
    "D580Cbgg0D6hcC700D6qoC6qoD6qoC700D6hcC6qoD6qoC6qoD6qoC6qoD6qoC6qoD700C6qoD6qoC6qoD6qoC6q" ++
    "oD6qoC6qoD6qoC6qoD6qoC6qoD700C6qoD6qoC6qoD6qoC6qoD6qoC6qoD6qoC6qoD6qoC;1996 3600 7200 3 " ++
    "5 0 7200 10 5 0 10800"),
  ("Europe/Bucharest",
   "6264 7200 10800;.1a37w94B.fj8m0C4yoB6qoC6qoB700C6qoB6qoC6qoB6qoC6qoB6qoC6qoB6qoC6qoB6qoC6" ++
    "qoBeweoC4nyB700C6heB6qsC6qoB6qoC6qoB6qoC6qoB6qoC700B6qoC6qoB6qoC6qoB6qoC6qoB6qoC6qoB6qoC" ++
    "6qoB6qoC700B6qkC6qoB6qoC6qoB6qoC6qoB6qoC6qmB6qqC6qmB702C7ryB;1997 7200 10800 3 5 0 10800" ++
    " 10 5 0 14400"),
  ("Europe/Budapest",
   "4580 3600 7200;.ou3hjwB.db0dz8C5o2B7asC5pcB7s0C5pcB7tcC5o0B7ioC680B7pyiCl86B5g0C700B6qoC6" ++
    "qoB7uiC6s2B5k4C71aB6peC6qoB6qoC6qoB700C6hcB1qqkC4xaB8k6C4xcB92oC4eoB92oC4eoB8gmkC6hcB6qo" ++
    "C6qoB6qoC6qoB6qoC6qoB6qsC700B6qoC6qoB6qoC6qoB6qoC6qoB6qoC6qoB6qoC6qoB6qoC700B6qoC6qoB6qo" ++
    "C6qoB6qoC6qoB6qoC6qoB6qoC6qoB;1996 3600 7200 3 5 0 7200 10 5 0 10800"),
  ("Europe/Chisinau Europe/Tiraspol",
   "6920 6900 6264 7200 10800 3600 14400;.j6jnqwB.jw96okC.70f1toD.fj8m0E4yoD6qoE6qoD700E6qoD6" ++
    "qoE6qoD6qoE6qoD6qoE6qoD6qoE6qoD6qoE6qoDbtcEcfyDhiwF5g0D700F6qoD5aiEdr5aG6ryE6qqG6ryE6qqG" ++
    "6ryE6s2G6qsE6qoG6qoE6qoG6qoE6qoG6qoE6qoG6qoE6qoG6qoE6qoG1jyE5g4D6qoE6qoD6qkE6qmD6qqE6qmD" ++
    "6qqE6qmD6qqE6qmD702E7ryD5piE7s0D5pcE7s0D5pcE81cD5g0E81cD5g0E81cD5pcE7s0D5pcE7s0D5pcE81cD" ++
    "5g0E81cD5g0E81cD5g0E81cD5pcE7s0D5pcE7s0D5pcE81cD5g0E81cD5g0E81cD5pcE7s0D5pcE7s0D5pcE7s0D" ++
    "5pcE81cD5g0E81cD5g0E81cD5pcE7s0D5pcE7s0D5pcE81cD;2022 7200 10800 3 5 0 10800 10 5 0 1440" ++
    "0"),
  ("Eire Europe/Dublin",
   "-1521 2079 0 3600;.126595dB4xcC.9pytrD600C6yoD71cC6pcD6s0C6pcD7tcC5xcD6s0C6g0D79cC79cD5g0" ++
    "C7s0D5yoC7s0D680C79cD680C700D6hcC7ioD680C79cD680C700D6hcC79cD680C79cD680C700D6qoC79cD680" ++
    "C700D6hcC79cD680C79cD680C700D6hcC79cD81cC3moD2hg0C5yoD8k0C680D79cC5pcD7s0C680D700C6hcD70" ++
    "0C6qoD700C6hcD680C700D6hcC79cD680C7ioD680C700D6hcC79cD680C79cD680C700D6hcC6hcD81cC5g0D81" ++
    "cC5pcD7s0C5g0D81cC5g0D81cC5g0D81cC5g0D8aoC45cD1e1cC56oD8aoC56oD8aoC56oD8aoC56oD8aoC5g0D8" ++
    "1cC5g0D81cC5g0D8aoC56oD8aoC56oD8aoC5paD7s0C5pcD7s0C5pcD7s0C5pcD81cC5pcD7s0C5pcD7s0C5pcD7" ++
    "s0C5pcD7s0C5pcD81cC5g0D81cC5pcD7s0C5pcD7s0C5pcD7s0C5pcD7s0C5pcD7s0C;1996 0 3600 3 5 0 36" ++
    "00 10 5 0 7200"),
  ("Europe/Gibraltar",
   "-1284 0 3600 7200;.jhk4qsB.iol38cC4xcB700C600B6yoC71cB6pcC6s0B6pcC7tcB5xcC6s0B6g0C79cB79c" ++
    "C5g0B7s0C5yoB7s0C680B79cC680B700C6hcB7ioC680B79cC680B700C6hcB79cC680B79cC680B700C6qoB79c" ++
    "C680B700C6hcB79cC680B79cC680B700C6hcB79cC81cB3moCg2mD3moC8tcD4o0C8tcD4xcC8k0D680C7aoD3uo" ++
    "C342B700C6hcB5yoC11aD4eoC342B4xcC8k0B5pcC7s0B680C700B6hcC700B6qoC700B6hcC680B700C6hcB79c" ++
    "C680B7ioC680B700C9djyD6qoC6qoD6qoC6qoD700C6qoD6qoC6qoD6qoC6qoD6qoC6qoD6qoC6qoD6qoC6qoD70" ++
    "0C6qoD6qoC6qoD6qoC6qoD6qoC6qoD6qoC6qoD6qoC;1996 3600 7200 3 5 0 7200 10 5 0 10800"),
  ("Europe/Helsinki Europe/Mariehamn",
   "5989 7200 10800;.14r1dsrB.ax3tqdC6tcBeglgC6qoB6qoC6qoB6qqC6qoB6qoC700B6qoC6qoB6qoC6qoB6qo" ++
    "C6qoB6qoC6qoB6qoC6qoB6qoC700B6qoC6qoB6qoC6qoB6qoC6qoB6qoC6qoB6qoC6qoB;1996 7200 10800 3 " ++
    "5 0 10800 10 5 0 14400"),
  ("Asia/Istanbul Europe/Istanbul Turkey",
   "6952 7016 7200 10800 14400;.j6jnq0B.g1oam8C.2wvx6wD5nyC1b6qD7taC5xeD6ryC6g2D79aClleD57yC7" ++
    "uqD5nyC5jiqD3laC22qDavyC742D1bmmC8qqD4imC7g2D67yC79eD67yC702D6haC79eD6haC79eD67yC41peDhh" ++
    "aC7c2D55aC39asD5pcC5g2D81aC55eD8byC56qD8amC5peD79aC682D202mE2byDeo2C6aoD5yoC6s0D6qoC6qoD" ++
    "6qoC6qoD6qoC6qoD6qoC6qoD700C6qoD6qoC6qoD6qoC6qoD6qoC6hcD700C6qoD6qoC700D7s0C5pcD7s0C5pcD" ++
    "7s0C5pcD81cC5g0D81cC5g0D81cC5pcD7s0C5pcD7s0C5pcD81cC5g0D81cC5g0D81cC5g4D81cC5pcD7s0C5pcD" ++
    "7s0C5pcD81cC5hcD800C5g0D81cC5pcD7s0C5qoD7qoC5pcD8aoC56oD;"),
  ("Europe/Kaliningrad",
   "4920 3600 7200 10800 14400;.q3gtagB.c1n28oC5o2B7asC5pcB7s0C5pcB83eoCz00B5g0C700B6qoC6qoB6" ++
    "qoCzuD6vyC5teDd59aE6ryD6qqE6ryD6qqE6ryD6s2E6qsD6qoE6qoD6qoE6qoD6qoE6qoD6qoE6qoDdheC6qoD7" ++
    "00C6qoD6qoC6qoD6qoC6qoD6qoC6qoD6qoC6qoD6qoC700D7s0C5pcD7s0C5pcD7s0C5pcD81cC5g0D81cC5g0D8" ++
    "1cC5pcD7s0C5pcD7s0C5pcD81cC5g0D81cC5g0D81cC5g0D81cC5pcD7s0C5pcD7s0C5pcD81cC5g0D1chaC;"),
  ("Europe/Kirov",
   "11928 10800 14400 18000;.13skrr4B44fuCj2xaD6ryC6qqD6ryC6qqD6ryC6s2D6qsC6qoD6qoC6qoD6qoC6q" ++
    "oD6qoC6qoD6qoCdheB6qoC700B6qoCk80B6qoC6qoB6qoC6qoB6qoC6qoB700C7s0B5pcC7s0B5pcC7s0B5pcC81" ++
    "cB5g0C81cB5g0C81cB5pcC7s0B5pcC7s0B5pcC81cB5g0C81cB5g0C81cB5g0C81cB5pcC7s0B5pcC7s0B5pcC81" ++
    "cB5g0C1chaB;"),
  ("Europe/Kiev Europe/Kyiv Europe/Uzhgorod Europe/Zaporozhye",
   "7324 7200 10800 3600 14400;.16bgu3oB.37a03gC486mBf48D5g0B700D17wCe1ykE6ryC6qqE6ryC6qqE6ry" ++
    "C6s2E6qsC6qoE6qoC6qoE6qoC6qoE6qoC6qoE6qoC6qoE6qoC6qoE3mmCgusB6qoC6qoB6qoC6qoB6qoC6qoB6qo" ++
    "C6qoB700C7s2B;1997 7200 10800 3 5 0 10800 10 5 0 14400")]

def zoneTableF : List (String × String) := [
  ("Europe/Lisbon Portugal WET",
   "-2205 0 3600 7200;.zvqef4B1odaC51eB4g0C8fyB52qC8fyB52qC8fyB542C8fyB52qC8fyBxw0C6c0BkqoC68" ++
    "0B700C6hcB79cC6hcB79cC680BkqoC680B6qoC6qoBkhcC6qoB6hcC700B79cC680B6qoC6qoB6hcC700B79cC81" ++
    "cB3moC8dcB6o0C6s0B5xcC1jyD45cC2leB56oC1amD4xcC2c2B4xcC1jyD4o0C2c2B4xcC1jyD4o0C2c2B5yoC6q" ++
    "oB6quC6qoB6qoC6qoB6qoC6qoB6qoC6qoB6qoC700B6qoC6qoB6qoC6qoB6qoC6qoB6qoC6qoB6qoC700B6qoC6q" ++
    "oB6qoC6qoB6qoC6qoB6qoC6qoB6qoC6qoB6qoC700B6qoC6qoB6qoC6qoB6qoC6qoB6qoC3xt8B6qoC6qoB702C6" ++
    "qoB6qoC6qoB700C6hcB6qmC6qoB6qoC6qoB6qoC6qoB6qoC700B6qoC6qoB6qqC6qoB6qoC6qoB6qoC6qoB6qoC6" ++
    "qoB6qoC700B6qoC6qoB6qoCdhcD6qoC6qoD6qoC6qoD6qoCes0B;1997 0 3600 3 5 0 3600 10 5 0 7200"),
  ("Europe/Belfast Europe/Guernsey Europe/Isle_of_Man Europe/Jersey Europe/London GB GB-Eire",
   "-75 0 3600 7200;.2fpyh7B.zqf9hxC4xcB700C600B6yoC71cB6pcC6s0B6pcC7tcB5xcC6s0B6g0C79cB79cC5" ++
    "g0B7s0C5yoB7s0C680B79cC680B700C6hcB7ioC680B79cC680B700C6hcB79cC680B79cC680B700C6qoB79cC6" ++
    "80B700C6hcB79cC680B79cC680B700C6hcB79cC81cB3moCg2mD3moC8tcD4o0C8tcD4xcC8k0D680C7aoD3uoC3" ++
    "42B700C6hcB5yoC11aD4eoC342B4xcC8k0B5pcC7s0B680C700B6hcC700B6qoC700B6hcC680B700C6hcB79cC6" ++
    "80B7ioC680B700C6hcB79cC680B79cC680B700C6hcB6hcC81cB5g0C81cB5pcC7s0B5g0C81cB5g0C81cB5g0C8" ++
    "1cB5g0C8aoB45cC1e1cB56oC8aoB56oC8aoB56oC8aoB56oC8aoB5g0C81cB5g0C81cB5g0C8aoB56oC8aoB56oC" ++
    "8aoB5paC7s0B5pcC7s0B5pcC7s0B5pcC81cB5pcC7s0B5pcC7s0B5pcC7s0B5pcC7s0B5pcC81cB5g0C81cB5pcC" ++
    "7s0B5pcC7s0B5pcC7s0B5pcC7s0B5pcC7s0B;1996 0 3600 3 5 0 3600 10 5 0 7200"),
  ("Europe/Madrid",
   "-884 0 3600 7200;.u53if4B6humC6g2B6qmC6s2B1p9aC6c2BkqmC682B6zyC6heB79cC6hcB79aC682B2w3yC4" ++
    "02B6qmC11aD5qoCdpgB5ymCsryD4heC8haD682C79aD682C79aD682C79aD682CyzyD5peC97umD6heC6zyD6heC" ++
    "6haD6qqC6zyD6heC704D6qoC6qoD6qoC700D6hcC6qoD6qoC6qoD6qoC6qoD6qoC6qoD700C6qoD6qoC6qoD6qoC" ++
    "6qoD6qoC6qoD6qoC6qoD6qoC6qoD700C6qoD6qoC6qoD6qoC6qoD6qoC6qoD6qoC6qoD6qoC;1996 3600 7200 " ++
    "3 5 0 7200 10 5 0 10800"),
  ("Europe/Malta",
   "3484 3600 7200;.qeizqcB.bsbx8sC4emB6qqC6ryB5xeC7taB5eqC81aB682C6qmB7f02Cw84B5g0C700B6pcC6" ++
    "80B7aoC658B6s4C7ioB5ykC7ioB5g4C81cB6mikC4nyB92qC4eoB92oC4eoB9c0C4eoB92oC4eoB8tcC4o0B92oC" ++
    "4o0B6pcC6qoB7k0C5hcB804C5paB7s2C5paB7s2C5paB7s2C5paB7s2C5paB7aqC6fyB702C6qoB6qoC6qoB6qoC" ++
    "6qoB6qoC700B6qoC6qoB6qoC6qoB6qoC6qoB6qoC6qoB6qoC6qoB6qoC700B6qoC6qoB6qoC6qoB6qoC6qoB6qoC" ++
    "6qoB6qoC6qoB;1996 3600 7200 3 5 0 7200 10 5 0 10800"),
  ("Europe/Minsk",
   "6616 6600 7200 10800 3600 14400;.j6jnzcB.n4x6ogC.379zjcD452mCi88E5g0C700E6qoC3d6Ddt2mF6ry" ++
    "D6qqF6ryD6qqF6ryD6s2F6qsD6qoF6qoD6qoF6qoD6qoF6qoD6qoF6qoD6qoF6qoDr82C6qoD6qoC6qoD6qoC6qo" ++
    "D6qoC6qoD6qoC700D7s0C5pcD7s0C5pcD7s0C5pcD81cC5g0D81cC5g0D81cC5pcD7s0C5pcD7s0C5pcD81cC5g0" ++
    "D81cC5g0D81cC5g0D81cC5pcD7s0C5pcD7s0C5pcD81cC5g0D;"),
  ("Europe/Moscow W-SU",
   "9017 9079 12679 16279 14400 10800 18000 7200;.128ci4nB.ipzuaC6moB5qmD3yqC9jyD.1jwk7E1p4Fk" ++
    "c0E19aG62oE142FdiqH2wg2Fj2xaE6ryF6qqE6ryF6qqE6ryF6s2E6qsF6qoE6qoF6qoE6qoF6qoE6qoF6qoE6qo" ++
    "F6qoE6qoF6qoE700FdheH45cF2laE6qoF6qoE6qoF6qoE6qoF6qoE6qoF700E7s0F5pcE7s0F5pcE7s0F5pcE81c" ++
    "F5g0E81cF5g0E81cF5pcE7s0F5pcE7s0F5pcE81cF5g0E81cF5g0E81cF5g0E81cF5pcE7s0F5pcE7s0F5pcE81c" ++
    "F5g0E1chaF;"),
  ("Europe/Monaco Europe/Paris",
   "561 0 3600 7200;.zgi8njB.2qx1nlC41cB6g0C7aoB5o0C7tcB5eoC82oB4w0C9c0B59cC8c0B5lcC79cB8k0C4" ++
    "xcB6hcC700B6qoC6qoB79cC680B700C6hcB79cC6hcB79cC680B700C6hcB79cC680B6qoC6qoB6hcC79cB6qoC6" ++
    "qoB6hcC700B79cC680B6qoC6qoB6hcC700B79cC81cB3muC43sDw86C5g0D700C6qoD6ykC6isD66oCbgzyD6qmC" ++
    "704D6hcC700D6qoC6qoD6qoC700D6hcC6qoD6qoC6qoD6qoC6qoD6qoC6qoD700C6qoD6qoC6qoD6qoC6qoD6qoC" ++
    "6qoD6qoC6qoD6qoC6qoD700C6qoD6qoC6qoD6qoC6qoD6qoC6qoD6qoC6qoD6qoC;1996 3600 7200 3 5 0 72" ++
    "00 10 5 0 10800"),
  ("Europe/Bratislava Europe/Prague",
   "3464 3600 7200 0;.pba12wB.cttug8C5o2B7asC5pcB7s0C5pcB83eoCz00B5g0C700B6qoC6qoB6qoC6qoB81c" ++
    "C5o0B22qD340B22mC680B79cC680B6yoC6ioBb300C6qoB700C6hcB6qoC6qoB6qoC6qoB6qoC6qoB6qoC700B6q" ++
    "oC6qoB6qoC6qoB6qoC6qoB6qoC6qoB6qoC6qoB6qoC700B6qoC6qoB6qoC6qoB6qoC6qoB6qoC6qoB6qoC6qoB;1" ++
    "996 3600 7200 3 5 0 7200 10 5 0 10800"),
  ("Europe/Riga",
   "5794 9394 7200 10800 3600 14400;.135ua66B5pcA7aoB1w0A2makC.7fhlkyDc7yCi48E5g0C700E6qoC6qo" ++
    "EekDdpakF6ryD6qqF6ryD6qqF6ryD6s2F6qsD6qoF6qoD6qoF6qoD6qoF6qoD6qoF6qoDdheC6qoD700C6qoD6qo" ++
    "C6qoD6qoC6qoD6qoC6qoD6qoC6qoD6qoC700D6qoC6qqD7s0C5pcD7s0C5pcD81cC;2001 7200 10800 3 5 0 " ++
    "10800 10 5 0 14400"),
  ("Europe/Rome Europe/San_Marino Europe/Vatican",
   "2996 3600 7200;.qeh4z4B8hk0C4emB6qqC6ryB5xeC7taB5eqC81aB682C6qmB7f02Cw84B5g0C700B6qoC66oB" ++
    "7aoC658B6s4C7ioB5ykC7ioB5g4C81cB6mikC4nyB92qC4eoB92oC4eoB9c0C4eoB92oC4eoB8tcC4o0B92oC4o0" ++
    "B92oC4eoB8tcC4o0B92oC4eoB92oC4eoB8tcC4o0B92oC4o0B8tcC4o0B704C6hcB6qoC6qoB6qoC6qoB6qoC6qo" ++
    "B6qoC700B6qoC6qoB6qoC6qoB6qoC6qoB6qoC6qoB6qoC6qoB6qoC700B6qoC6qoB6qoC6qoB6qoC6qoB6qoC6qo" ++
    "B6qoC6qoB;1996 3600 7200 3 5 0 7200 10 5 0 10800"),
  ("Europe/Samara",
   "12020 10800 14400 18000;.13skrr4B44fuCj2xaD6ryC6qqD6ryC6qqD6ryC6s2D6qsC6qoD6qoC6qoD6qoC6q" ++
    "oD6qoC6qoD6qoCdheB6qoC700Be9eC5ykD6qoC6qoD6qoC6qoD6qoC6qoD6qoC700D7s0C5pcD7s0C5pcD7s0C5p" ++
    "cD81cC5g0D81cC5g0D81cC5pcD7s0C5pcD7s0C5pcD81cC5g0D81cC5g0D81cC5g0D81cC5pcD7s0C5pcD7s0Cdq" ++
    "qB5g0C;"),
  ("Europe/Saratov",
   "11058 10800 14400 18000;.13skrr4B44fuCj2xaD6ryC6qqD6ryC6qqD6ryC6s2D6qsC6qoD6qoC6qoD6qoC6q" ++
    "oD6qoCdheB6qoC6qoB6qoC700B6qoCk80B6qoC6qoB6qoC6qoB6qoC6qoB700C7s0B5pcC7s0B5pcC7s0B5pcC81" ++
    "cB5g0C81cB5g0C81cB5pcC7s0B5pcC7s0B5pcC81cB5g0C81cB5g0C81cB5g0C81cB5pcC7s0B5pcC7s0B5pcC81" ++
    "cB5g0C1chaBsiqC;"),
  ("Europe/Simferopol",
   "8184 8160 7200 10800 3600 14400;.j6jmrsB.n4x6ooC.37a0qoD49qmCdk8E5g0C700E6qoCd6Ddw2mF6ryD" ++
    "6qqF6ryD6qqF6ryD6s2F6qsD6qoF6qoD6qoF6qoD6qoF6qoD6qoF6qoD6qoF6qoDadcCnleD6qoC6qoD6qoC6qoD" ++
    "1aiF5g4D6qoF6qoD6zwF7s6DdheC5pcD7s0C5pcD81cC5g0D81cC5g0D81cC5pcD7s0C5pcD7s0C5pcD81cC5g0D" ++
    "81cC5g0D81cC5g0D81cC5pcD7s0C5pcD7s0C5pcD81cC5g0D81cC5g0D81cC5pcD7s0C5paF7rwD;"),
  ("Europe/Sofia",
   "5596 7016 7200 3600 10800;.j6joroB.7s708kC.p0d6uwD5g0C700D6qoC6qoD6qqCcrvqE6s2C6ymE6iqC6y" ++
    "mE6hgC6zwE6hiC6qoE6qoC6qoE700C6qoE6qoC6qoE6qoC6qoE6qoC6qoE6qoC6qoE6qoC6qoE700C6qkE6qmC6q" ++
    "qE6qmC6qqE6qmC6qqE6qmC6qqE6qmC702E7ryC;1997 7200 10800 3 5 0 10800 10 5 0 14400"),
  ("Europe/Tallinn",
   "5940 3600 7200 10800 14400;.1322xu4B.3re10C5pcBanwA.ygov0C.a1zgd0DezyCfawB5g0C700B6qoC6d6" ++
    "Ddq2mE6ryD6qqE6ryD6qqE6ryD6s2E6qsD6qoE6qoD6qoE6qoD6qoE6qoD6qoE6qoDdheC6qoD700C6qoD6qoC6q" ++
    "oD6qoC6qoD6qoC6qoD6qoC6qoD6qoC700D7s0C5pcD7s0C5pcD7s2C5pcD81cC;2002 7200 10800 3 5 0 108" ++
    "00 10 5 0 14400"),
  ("Europe/Tirane",
   "4760 3600 7200;.10xc02wB.dt2gw8Cw6sB5g0Cg0Bbo98C5laB7teC5paB7w2C5paB81eC5fyB802C5haB802C5" ++
    "haB802C5paB7k2C5paB81eC5paB7aqC65aB6s2C6qsB6qoC6qoB6qoC6qoB6qoC6qoB6qoC6qoB6qoC6qoB6qoC7" ++
    "00B6qoC6qoB6qoC6qoB6qoC6qoB6qoC6qoB6qoC6qoB;1996 3600 7200 3 5 0 7200 10 5 0 10800"),
  ("Europe/Ulyanovsk",
   "11616 10800 14400 18000 7200;.13skrr4B44fuCj2xaD6ryC6qqD6ryC6qqD6ryC6s2D6qsC6qoD6qoC6qoD6" ++
    "qoC6qoD6qoC6qoD6qoCdheB6qoC700BdheE45cB2laC6qoB6qoC6qoB6qoC6qoB6qoC6qoB700C7s0B5pcC7s0B5" ++
    "pcC7s0B5pcC81cB5g0C81cB5g0C81cB5pcC7s0B5pcC7s0B5pcC81cB5g0C81cB5g0C81cB5g0C81cB5pcC7s0B5" ++
    "pcC7s0B5pcC81cB5g0C1chaBj6qC;"),
  ("Europe/Vienna",
   "3921 3600 7200;.q3gu27B.c1n1gxC5o2B7asC5pcB7s0C5pcBl00C5yoB7cg0Cz00B5g0C700B6qoC6qoB6qoCd" ++
    "cBdlcC6ioB6pcC6qoB79cC680Bbu7wC6haB6quC6qoB6qoC6qoB6qoC6qoB6qoC700B6qoC6qoB6qoC6qoB6qoC6" ++
    "qoB6qoC6qoB6qoC6qoB6qoC700B6qoC6qoB6qoC6qoB6qoC6qoB6qoC6qoB6qoC6qoB;1996 3600 7200 3 5 0" ++
    " 7200 10 5 0 10800"),
  ("Europe/Vilnius",
   "6076 5040 5736 3600 7200 10800 14400;.j6joecB.jb5y4sC.1g224oD.e75ncE3amD7g2qFc18EidkD5g0E" ++
    "700D6qoE4fuFdrzyG6ryF6qqG6ryF6qqG6ryF6s2G6qsF6qoG6qoF6qoG6qoF6qoG6qoF6qoG6qoFdheE6qoF700" ++
    "E6qoF6qoE6qoF6qoE6qoF6qoE6qoF6qoE6qoF6qoE700F7s0E5pcF7s0EdheD5pcE;2003 7200 10800 3 5 0 " ++
    "10800 10 5 0 14400"),
  ("Europe/Volgograd",
   "10660 10800 14400 18000;.1424zj0B.5glrw4Cj2xaD6ryC6qqD6ryC6qqD6ryC6s2D6qsC6qoD6qoC6qoD6qo" ++
    "C6qoD6qoCdheB6qoC6qoB6qoC700B6qoCk80B6qoC6qoB6qoC6qoB6qoC6qoB700C7s0B5pcC7s0B5pcC7s0B5pc" ++
    "C81cB5g0C81cB5g0C81cB5pcC7s0B5pcC7s0B5pcC81cB5g0C81cB5g0C81cB5g0C81cB5pcC7s0B5pcC7s0B5pc" ++
    "C81cB5g0C1chaB1i6qCtamB;"),
  ("Europe/Warsaw Poland",
   "5040 3600 7200 10800;.11r7x74B.dvyc0C5o2B7asC5pcB7s0CdimD5pcC10mkB6sc6CvxcB5g0C700B6qoC6t" ++
    "aB7nyC6vyB62qC6isB7qoC5pcB79cC680B700C6hcB2vpaC4eoB6qoC6qoB92oC4o0B6qoC6qoB8tcC4o0B8tcC4" ++
    "o0B8tcC4o0B92oC4eoB4paoC6hcB700C6qoB6qoC6qoB700C6hcB6qoC6qoB6qoC6qoB6qoC6qoB6qoC700B6qoC" ++
    "6qoB6qoC6qoB6qoC6qoB6qqC6qoB6qoC6qoB6qoC700B6qoC6qoB6qoC6qoB6qoC6qoB6qoC6qoB6qoC6qoB;199" ++
    "6 3600 7200 3 5 0 7200 10 5 0 10800"),
  ("Europe/Busingen Europe/Vaduz Europe/Zurich",
   "2048 1786 3600 7200;.5ddm68B.lc05jaC.ohmxdmD5pcC7s0D5pcCegk2D6qoC6qoD6qoC6qoD6qoC6qoD700C" ++
    "6qoD6qoC6qoD6qoC6qoD6qoC6qoD6qoC6qoD6qoC6qoD700C6qoD6qoC6qoD6qoC6qoD6qoC6qoD6qoC6qoD6qoC" ++
    ";1996 3600 7200 3 5 0 7200 10 5 0 10800"),
  ("Indian/Chagos",
   "17380 18000 21600;.x9sjocB.1ag64usC;"),
  ("Indian/Kerguelen Indian/Maldives",
   "17640 18000;.1oxkot4B;"),
  ("Indian/Mauritius",
   "13800 14400 18000;.x9smfsB.13jnu7cC5zyB9mc6C5paB;"),
  ("Pacific/Apia",
   "45184 -41216 -41400 -39600 -36000 50400 46800;.ppjy80B6y5cC.kcrmt4DmtlbE6yuD6hcE3l4F3ewG6" ++
    "qoF700G6hcF700G6hcF700G6hcF700G6hcF700G6hcF700G6qoF700G6hcF700G6hcF700G;"),
  ("Antarctica/McMurdo Antarctica/South_Pole NZ Pacific/Auckland",
   "41944 41400 45000 43200 46800;.dcswq0B.usn9z4C4emB8aqD5pbB7s1D5pbB7s1D5pbB7s1D5ynB7ipD5yn" ++
    "B7ipD7inB5pdD7rzB5pdD7rzB5pdD7rzB5pdD7rzB5pdD81bB5g1D81bB5pdDct7zE45cD92oE4xcD8tcE4o0D8t" ++
    "cE4o0D8tcE4o0D8tcE4o0D8tcE4o0D8tcE4xcD8tcE4o0D8tcE4o0D8tcE4o0D8tcE4o0D8tcE4o0D8tcE4xcD8t" ++
    "cE4o0D81cE5yoD7ioE5yoD7ioE5yoD7ioE680D79cE680D79cE680D79cE680D7ioE5yoD7ioE5yoD7ioE680D79" ++
    "cE680D79cE680D7ioE5yoD7ioE5yoD7ioE680D79cE680D79cE680D79cE680D79cE;2008 43200 46800 9 5 " ++
    "0 7200 4 1 0 10800"),
  ("Pacific/Bougainville",
   "37336 35312 36000 32400 39600;.j6j0a0B.7tuc88C.osc24wD16heCq26qE;"),
  ("NZ-CHAT Pacific/Chatham",
   "44028 44100 45900 49500;.dcsv44B.149qqm0C.f1tq90D45cC92oD4xcC8tcD4o0C8tcD4o0C8tcD4o0C8tcD" ++
    "4o0C8tcD4o0C8tcD4xcC8tcD4o0C8tcD4o0C8tcD4o0C8tcD4o0C8tcD4o0C8tcD4xcC8tcD4o0C81cD5yoC7ioD" ++
    "5yoC7ioD5yoC7ioD680C79cD680C79cD680C79cD680C7ioD5yoC7ioD5yoC7ioD680C79cD680C79cD680C7ioD" ++
    "5yoC7ioD5yoC7ioD680C79cD680C79cD680C79cD680C79cD;2008 45900 49500 9 5 0 9900 4 1 0 13500"),
  ("Chile/EasterIsland Pacific/Easter",
   "-26248 -25200 -21600 -18000;.1ao2lc8B.ivmeuwC5fyB8teC4nyB79eC5paB7s2C5paB81eC5fyB7iqC5ymB" ++
    "81eC5fyB81eC5paB7s2C5paB7s2C5paB81eC5fyB81eC5fyB81eC5paB7s2CdhcD5paC7s2D5paC81eD5fyC81eD" ++
    "5fyC81eD6qmC6qqD5paC7s2D5paC81eD5fyC702D6haC81eD5paC7s2D5paC7s2D5paC7s2D5paC81eD5fyC81eD" ++
    "67yC79eD5paC79eD6zyC702D5paC81eD5fyC81eD5fyC81eD5fyC81eD5paC7s2D5paC7s2D5paC81eD5fyC81eD" ++
    "67yC79eD5paC7s2D6haC702D7ryC3w2D9byC4o2D8taC4xeD8jyC4xeDmtaC3deDa3yC3deDa3yC3deD8taC5peD" ++
    "7ryC5peD7ryC5peD7ryC5yqD;2023 -21600 -18000 9 1 6 79200 4 1 6 79200"),
  ("Pacific/Efate",
   "40396 39600 43200;.zwbr90B.wbu364C3moB3kc2C6qmB6qqC6qmB702C6haB702C6qmB6qqC6qmB6qqC6qmB6q" ++
    "qC6qmB6qqC6qmB702C4emBa42C3daB;"),
  ("Pacific/Fakaofo",
   "-41096 -39600 46800;.u54e4oB.1lxe1igC;"),
  ("Pacific/Fiji",
   "42944 43200 46800;.11veym8B.17bs00wC4eoB9c0C45cB3nyoC4eoB7s0C4xcB8k0C3dcBa40C3dcBadcC33yB" ++
    "amqC2uoBamoC2uoBaw0C2lcBaw0C2lcBaw0C2lcBb5cC2c0BcpcC11cB;"),
  ("Pacific/Galapagos",
   "-21504 -18000 -21600;.19sqpogB.spdryoC2lg2B2jyC;"),
  ("Pacific/Gambier",
   "-32388 -32400;.109ui2sB;"),
  ("Pacific/Guadalcanal Pacific/Pohnpei Pacific/Ponape",
   "38388 39600;.109szgsB;"),
  ("Pacific/Guam Pacific/Saipan",
   "-51660 34740 36000 32400 39600;.wyua4Bl1ioC.ld6pp0DzpeC5lmqEljyC2h42E.qdrpoC.7kgacE2laC8t" ++
    "eE4xaC8k2E4xaCuuqE2laCug2E.4ivxoC.cls2cE4nyC;"),
  ("HST Pacific/Honolulu Pacific/Johnston US/Hawaii",
   "-37886 -37800 -34200 -36000;.rjtzniB.jgnatmCsiB39ziC1d7yBmteD;"),
  ("Pacific/Enderbury Pacific/Kanton",
   "0 -43200 -39600 46800;.1d9xnr4BftbcC5qamD;"),
  ("Pacific/Kiritimati",
   "-37760 -38400 -36000 50400;.u54bk0B.153iz5sC.7yirhcD;"),
  ("Pacific/Kosrae",
   "-47284 39116 39600 32400 36000 43200;.wyqwkBl1ioC.76a4ykD1mo4C6qd8E1lg2D1mmqC92x8FazpaC;"),
  ("Kwajalein Pacific/Kwajalein",
   "40160 39600 36000 32400 -43200 43200;.u52nfkB.ise0fkC1lg2D12k2B9mzwE8z6mF;"),
  ("Pacific/Marquesas",
   "-33480 -34200;.109uix4B;"),
  ("Pacific/Nauru",
   "40060 41400 32400 43200;.14lkcucB.ba66ysC14ytBck5bD;"),
  ("Pacific/Niue",
   "-40780 -40800 -39600;.1l660jwB.63yiokC;"),
  ("Pacific/Norfolk",
   "40312 40320 41400 45000 39600 43200;.u52nbcB.q3einsC.cfj8q0D4o0Cf940E1i6pF;2020 39600 432" ++
    "00 10 1 0 7200 4 1 0 10800"),
  ("Pacific/Noumea",
   "39948 39600 43200;.zwbrlgB.ye0ixoC35aBac2C36mB6o9iC3dcB;"),
  ("Pacific/Midway Pacific/Pago_Pago Pacific/Samoa US/Samoa",
   "45432 -40968 -39600;.ppjy14B6y5cC;"),
  ("Pacific/Palau",
   "-54124 32276 32400;.wyw6kBl1ioC;"),
  ("Pacific/Pitcairn",
   "-31220 -30600 -28800;.u546icB.1esg26sC;"),
  ("Antarctica/DumontDUrville Pacific/Chuuk Pacific/Port_Moresby Pacific/Truk Pacific/Yap",
   "35320 35312 36000;.j6j1u0B.7tuao8C;"),
  ("Pacific/Rarotonga",
   "48056 -38344 -37800 -34200 -36000;.tlzg08BjudcC.dlv68wD45aE8tdD4nzE8tdD4nzE8tdD4xbE8tdD4n" ++
    "zE8tdD4nzE8tdD4nzE8tdD4nzE8tdD4nzE8tdD4xbE8tdD4nzE8tdD4nzE8tdD4nzE;"),
  ("Pacific/Tahiti",
   "-35896 -36000;.109uks8B;"),
  ("Pacific/Funafuti Pacific/Majuro Pacific/Tarawa Pacific/Wake Pacific/Wallis",
   "41524 43200;.u52mdoB;"),
  ("Pacific/Tongatapu",
   "44352 44400 46800 50400;.1hgqc74B.7znjyoC.k8amdcD62oC8k0D33yCadeD33yC5jw2D2lcC;")]

/-- The names of each zone and its offsets. -/
def zoneTable : List (String × String) :=
  zoneTableA ++ zoneTableB ++ zoneTableC ++ zoneTableD ++ zoneTableE ++ zoneTableF

end UploadTemplate.Clock
