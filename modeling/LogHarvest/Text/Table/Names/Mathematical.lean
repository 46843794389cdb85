import LogHarvest.Text.Table.NameRun

/-!
# Names: dingbats, arrows and mathematical symbols
-/

namespace LogHarvest.Text.Table

def mathematicalNames : List NameRun := [
  ⟨0x2700, [
    "aBLACK SAFETY SCISSORSaUPPER BLADE SCISSORSaBLACK SCISSORSaLOWER BLADE SCISSORS",
    "aWHITE SCISSORSbHEAVY CHECK MARKaTELEPHONE LOCATION SIGNaTAPE DRIVEaAIRPLANEaENVELOPE",
    "aRAISED FISTbHANDaVICTORY HANDaWRITING HANDaLOWER RIGHT PENCILaPENCILaUPPER RIGHT PENCIL",
    "aWHITE NIBaBLACK NIBaCHECK MARKaHEAVY CHECK MARKaMULTIPLICATION XaHEAVY MULTIPLICATION X",
    "aBALLOT XaHEAVY BALLOT XaOUTLINED GREEK CROSSaHEAVY GREEK CROSSaOPEN CENTRE CROSS",
    "aHEAVY OPEN CENTRE CROSSaLATIN CROSSaSHADOWED WHITE LATIN CROSSaOUTLINED LATIN CROSS",
    "aMALTESE CROSSaSTAR OF DAVIDaFOUR TEARDROP-SPOKED ASTERISKbBALLOON-SPOKED ASTERISK",
    "aHEAVY FOUR BALLOON-SPOKED ASTERISKaFOUR CLUB-SPOKED ASTERISKaBLACK FOUR POINTED STAR",
    "aWHITE FOUR POINTED STARaSPARKLESaSTRESS OUTLINED WHITE STARaCIRCLED WHITE STAR",
    "aOPEN CENTRE BLACK STARaBLACK CENTRE WHITE STARaOUTLINED BLACK STAR",
    "aHEAVY OUTLINED BLACK STARaPINWHEEL STARaSHADOWED WHITE STARaHEAVY ASTERISK",
    "aOPEN CENTRE ASTERISKaEIGHT SPOKED ASTERISKbPOINTED BLACK STARcPINWHEEL STAR",
    "aSIX POINTED BLACK STARaEIGHT POINTED RECTILINEAR BLACK STAR",
    "aHEAVY EIGHT POINTED RECTILINEAR BLACK STARaTWELVE POINTED BLACK STAR",
    "aSIXTEEN POINTED ASTERISKaTEARDROP-SPOKED ASTERISKaOPEN CENTRE TEARDROP-SPOKED ASTERISK",
    "aHEAVY TEARDROP-SPOKED ASTERISKaSIX PETALLED BLACK AND WHITE FLORETTEaBLACK FLORETTE",
    "aWHITE FLORETTEaEIGHT PETALLED OUTLINED BLACK FLORETTE",
    "aCIRCLED OPEN CENTRE EIGHT POINTED STARaHEAVY TEARDROP-SPOKED PINWHEEL ASTERISKaSNOWFLAKE",
    "aTIGHT TRIFOLIATE SNOWFLAKEaHEAVY CHEVRON SNOWFLAKEaSPARKLEaHEAVY SPARKLE",
    "aBALLOON-SPOKED ASTERISKaEIGHT TEARDROP-SPOKED PROPELLER ASTERISK",
    "aHEAVY EIGHT TEARDROP-SPOKED PROPELLER ASTERISKaCROSS MARKaSHADOWED WHITE CIRCLE",
    "aNEGATIVE SQUARED CROSS MARKaLOWER RIGHT DROP-SHADOWED WHITE SQUARE",
    "aUPPER RIGHT DROP-SHADOWED WHITE SQUAREaLOWER RIGHT SHADOWED WHITE SQUARE",
    "aUPPER RIGHT SHADOWED WHITE SQUAREaBLACK QUESTION MARK ORNAMENT",
    "aWHITE QUESTION MARK ORNAMENTbEXCLAMATION MARK ORNAMENTaBLACK DIAMOND MINUS WHITE X",
    "aHEAVY EXCLAMATION MARK SYMBOLaLIGHT VERTICAL BARaMEDIUM VERTICAL BARaHEAVY VERTICAL BAR",
    "bSINGLE TURNED COMMA QUOTATION MARK ORNAMENTcCOMMA QUOTATION MARK ORNAMENT",
    "bDOUBLE TURNED COMMA QUOTATION MARK ORNAMENTcCOMMA QUOTATION MARK ORNAMENT",
    "bLOW SINGLE COMMA QUOTATION MARK ORNAMENTcDOUBLE COMMA QUOTATION MARK ORNAMENT",
    "aCURVED STEM PARAGRAPH SIGN ORNAMENTaHEAVY EXCLAMATION MARK ORNAMENT",
    "bHEART EXCLAMATION MARK ORNAMENTbBLACK HEARTaROTATED HEAVY BLACK HEART BULLETaFLORAL HEART",
    "aROTATED FLORAL HEART BULLETaMEDIUM LEFT PARENTHESIS ORNAMENTbRIGHT PARENTHESIS ORNAMENT",
    "bFLATTENED LEFT PARENTHESIS ORNAMENTcRIGHT PARENTHESIS ORNAMENT",
    "bLEFT-POINTING ANGLE BRACKET ORNAMENTbRIGHT-POINTING ANGLE BRACKET ORNAMENT",
    "aHEAVY LEFT-POINTING ANGLE QUOTATION MARK ORNAMENT",
    "bRIGHT-POINTING ANGLE QUOTATION MARK ORNAMENTbLEFT-POINTING ANGLE BRACKET ORNAMENT",
    "bRIGHT-POINTING ANGLE BRACKET ORNAMENTaLIGHT LEFT TORTOISE SHELL BRACKET ORNAMENT",
    "bRIGHT TORTOISE SHELL BRACKET ORNAMENTaMEDIUM LEFT CURLY BRACKET ORNAMENT",
    "bRIGHT CURLY BRACKET ORNAMENTaDINGBAT NEGATIVE CIRCLED DIGIT ONEeTWOeTHREEeFOUReFIVEeSIX",
    "eSEVENeEIGHTeNINEdNUMBER TENbCIRCLED SANS-SERIF DIGIT ONEfTWOfTHREEfFOURfFIVEfSIXfSEVEN",
    "fEIGHTfNINEeNUMBER TENbNEGATIVE CIRCLED SANS-SERIF DIGIT ONEgTWOgTHREEgFOURgFIVEgSIXgSEVEN",
    "gEIGHTgNINEfNUMBER TENaHEAVY WIDE-HEADED RIGHTWARDS ARROWbPLUS SIGNbMINUS SIGN",
    "bDIVISION SIGNbSOUTH EAST ARROWbRIGHTWARDS ARROWbNORTH EAST ARROW",
    "aDRAFTING POINT RIGHTWARDS ARROWaHEAVY ROUND-TIPPED RIGHTWARDS ARROW",
    "aTRIANGLE-HEADED RIGHTWARDS ARROWaHEAVY TRIANGLE-HEADED RIGHTWARDS ARROW",
    "aDASHED TRIANGLE-HEADED RIGHTWARDS ARROWaHEAVY DASHED TRIANGLE-HEADED RIGHTWARDS ARROW",
    "aBLACK RIGHTWARDS ARROWaTHREE-D TOP-LIGHTED RIGHTWARDS ARROWHEAD",
    "cBOTTOM-LIGHTED RIGHTWARDS ARROWHEADaBLACK RIGHTWARDS ARROWHEAD",
    "aHEAVY BLACK CURVED DOWNWARDS AND RIGHTWARDS ARROWdUPWARDS AND RIGHTWARDS ARROW",
    "aSQUAT BLACK RIGHTWARDS ARROWaHEAVY CONCAVE-POINTED BLACK RIGHTWARDS ARROW",
    "aRIGHT-SHADED WHITE RIGHTWARDS ARROWaLEFT-SHADED WHITE RIGHTWARDS ARROW",
    "aBACK-TILTED SHADOWED WHITE RIGHTWARDS ARROWaFRONT-TILTED SHADOWED WHITE RIGHTWARDS ARROW",
    "aHEAVY LOWER RIGHT-SHADOWED WHITE RIGHTWARDS ARROW",
    "bUPPER RIGHT-SHADOWED WHITE RIGHTWARDS ARROW",
    "aNOTCHED LOWER RIGHT-SHADOWED WHITE RIGHTWARDS ARROWaCURLY LOOP",
    "aNOTCHED UPPER RIGHT-SHADOWED WHITE RIGHTWARDS ARROWaCIRCLED HEAVY WHITE RIGHTWARDS ARROW",
    "aWHITE-FEATHERED RIGHTWARDS ARROWaBLACK-FEATHERED SOUTH EAST ARROWcRIGHTWARDS ARROW",
    "cNORTH EAST ARROWaHEAVY BLACK-FEATHERED SOUTH EAST ARROWdRIGHTWARDS ARROWdNORTH EAST ARROW",
    "aTEARDROP-BARBED RIGHTWARDS ARROWaHEAVY TEARDROP-SHANKED RIGHTWARDS ARROW",
    "aWEDGE-TAILED RIGHTWARDS ARROWaHEAVY WEDGE-TAILED RIGHTWARDS ARROW",
    "aOPEN-OUTLINED RIGHTWARDS ARROWaDOUBLE CURLY LOOPaTHREE DIMENSIONAL ANGLE",
    "aWHITE TRIANGLE CONTAINING SMALL WHITE TRIANGLEaPERPENDICULARaOPEN SUBSETbSUPERSET",
    "aLEFT S-SHAPED BAG DELIMITERaRIGHT S-SHAPED BAG DELIMITERaOR WITH DOT INSIDE",
    "aREVERSE SOLIDUS PRECEDING SUBSETaSUPERSET PRECEDING SOLIDUS",
    "aVERTICAL BAR WITH HORIZONTAL STROKEaMATHEMATICAL RISING DIAGONALaLONG DIVISION",
    "aMATHEMATICAL FALLING DIAGONALaSQUARED LOGICAL ANDcORaWHITE DIAMOND WITH CENTRED DOT",
    "aAND WITH DOTaELEMENT OF OPENING UPWARDSaLOWER RIGHT CORNER WITH DOT",
    "aUPPER LEFT CORNER WITH DOTaLEFT OUTER JOINaRIGHT OUTER JOINaFULL OUTER JOINaLARGE UP TACK",
    "bDOWN TACKaLEFT AND RIGHT DOUBLE TURNSTILEdTACKbMULTIMAPaLONG RIGHT TACKbLEFT TACK",
    "aUP TACK WITH CIRCLE ABOVEaLOZENGE DIVIDED BY HORIZONTAL RULEaWHITE CONCAVE-SIDED DIAMOND",
    "dDIAMOND WITH LEFTWARDS TICKfRIGHTWARDS TICKbSQUARE WITH LEFTWARDS TICKdRIGHTWARDS TICK",
    "aMATHEMATICAL LEFT WHITE SQUARE BRACKETbRIGHT WHITE SQUARE BRACKETbLEFT ANGLE BRACKET",
    "bRIGHT ANGLE BRACKETbLEFT DOUBLE ANGLE BRACKETbRIGHT DOUBLE ANGLE BRACKET",
    "bLEFT WHITE TORTOISE SHELL BRACKETbRIGHT WHITE TORTOISE SHELL BRACKET",
    "bLEFT FLATTENED PARENTHESISbRIGHT FLATTENED PARENTHESISaUPWARDS QUADRUPLE ARROW",
    "aDOWNWARDS QUADRUPLE ARROWaANTICLOCKWISE GAPPED CIRCLE ARROWaCLOCKWISE GAPPED CIRCLE ARROW",
    "aRIGHT ARROW WITH CIRCLED PLUSaLONG LEFTWARDS ARROWbRIGHTWARDS ARROWbLEFT RIGHT ARROW",
    "bLEFTWARDS DOUBLE ARROWbRIGHTWARDS DOUBLE ARROWbLEFT RIGHT DOUBLE ARROW",
    "bLEFTWARDS ARROW FROM BARbRIGHTWARDS ARROW FROM BARbLEFTWARDS DOUBLE ARROW FROM BAR",
    "bRIGHTWARDS DOUBLE ARROW FROM BARcSQUIGGLE ARROW"]⟩,
  ⟨0x2800, [
    "aBRAILLE PATTERN BLANKcDOTS-1d2d12d3d13d23d123d4d14d24d124d34d134d234d1234d5d15d25d125d35",
    "d135d235d1235d45d145d245d1245d345d1345d2345d12345d6d16d26d126d36d136d236d1236d46d146d246",
    "d1246d346d1346d2346d12346d56d156d256d1256d356d1356d2356d12356d456d1456d2456d12456d3456",
    "d13456d23456d123456d7d17d27d127d37d137d237d1237d47d147d247d1247d347d1347d2347d12347d57d157",
    "d257d1257d357d1357d2357d12357d457d1457d2457d12457d3457d13457d23457d123457d67d167d267d1267",
    "d367d1367d2367d12367d467d1467d2467d12467d3467d13467d23467d123467d567d1567d2567d12567d3567",
    "d13567d23567d123567d4567d14567d24567d124567d34567d134567d234567d1234567d8d18d28d128d38d138",
    "d238d1238d48d148d248d1248d348d1348d2348d12348d58d158d258d1258d358d1358d2358d12358d458d1458",
    "d2458d12458d3458d13458d23458d123458d68d168d268d1268d368d1368d2368d12368d468d1468d2468d12468",
    "d3468d13468d23468d123468d568d1568d2568d12568d3568d13568d23568d123568d4568d14568d24568",
    "d124568d34568d134568d234568d1234568d78d178d278d1278d378d1378d2378d12378d478d1478d2478d12478",
    "d3478d13478d23478d123478d578d1578d2578d12578d3578d13578d23578d123578d4578d14578d24578",
    "d124578d34578d134578d234578d1234578d678d1678d2678d12678d3678d13678d23678d123678d4678d14678",
    "d24678d124678d34678d134678d234678d1234678d5678d15678d25678d125678d35678d135678d235678",
    "d1235678d45678d145678d245678d1245678d345678d1345678d2345678d12345678"]⟩,
  ⟨0x2900, [
    "aRIGHTWARDS TWO-HEADED ARROW WITH VERTICAL STROKEfDOUBLE VERTICAL STROKE",
    "aLEFTWARDS DOUBLE ARROW WITH VERTICAL STROKEaRIGHTWARDS DOUBLE ARROW WITH VERTICAL STROKE",
    "aLEFT RIGHT DOUBLE ARROW WITH VERTICAL STROKEaRIGHTWARDS TWO-HEADED ARROW FROM BAR",
    "aLEFTWARDS DOUBLE ARROW FROM BARaRIGHTWARDS DOUBLE ARROW FROM BAR",
    "aDOWNWARDS ARROW WITH HORIZONTAL STROKEaUPWARDS ARROW WITH HORIZONTAL STROKEbTRIPLE ARROW",
    "aDOWNWARDS TRIPLE ARROWaLEFTWARDS DOUBLE DASH ARROWaRIGHTWARDS DOUBLE DASH ARROW",
    "aLEFTWARDS TRIPLE DASH ARROWaRIGHTWARDS TRIPLE DASH ARROWbTWO-HEADED TRIPLE DASH ARROW",
    "bARROW WITH DOTTED STEMaUPWARDS ARROW TO BARaDOWNWARDS ARROW TO BAR",
    "aRIGHTWARDS ARROW WITH TAIL WITH VERTICAL STROKEfDOUBLE VERTICAL STROKE",
    "bTWO-HEADED ARROW WITH TAILfTAIL WITH VERTICAL STROKEhDOUBLE VERTICAL STROKE",
    "aLEFTWARDS ARROW-TAILaRIGHTWARDS ARROW-TAILaLEFTWARDS DOUBLE ARROW-TAIL",
    "aRIGHTWARDS DOUBLE ARROW-TAILaLEFTWARDS ARROW TO BLACK DIAMOND",
    "aRIGHTWARDS ARROW TO BLACK DIAMONDaLEFTWARDS ARROW FROM BAR TO BLACK DIAMOND",
    "aRIGHTWARDS ARROW FROM BAR TO BLACK DIAMONDaNORTH WEST AND SOUTH EAST ARROW",
    "bEAST AND SOUTH WEST ARROWbWEST ARROW WITH HOOKbEAST ARROW WITH HOOK",
    "aSOUTH EAST ARROW WITH HOOKbWEST ARROW WITH HOOKaNORTH WEST ARROW AND NORTH EAST ARROW",
    "bEAST ARROW AND SOUTH EAST ARROWaSOUTH EAST ARROW AND SOUTH WEST ARROW",
    "bWEST ARROW AND NORTH WEST ARROWaRISING DIAGONAL CROSSING FALLING DIAGONAL",
    "aFALLING DIAGONAL CROSSING RISING DIAGONALaSOUTH EAST ARROW CROSSING NORTH EAST ARROW",
    "aNORTH EAST ARROW CROSSING SOUTH EAST ARROWaFALLING DIAGONAL CROSSING NORTH EAST ARROW",
    "aRISING DIAGONAL CROSSING SOUTH EAST ARROWaNORTH EAST ARROW CROSSING NORTH WEST ARROW",
    "bWEST ARROW CROSSING NORTH EAST ARROWaWAVE ARROW POINTING DIRECTLY RIGHT",
    "aARROW POINTING RIGHTWARDS THEN CURVING UPWARDSfDOWNWARDScDOWNWARDS THEN CURVING LEFTWARDS",
    "fRIGHTWARDSaRIGHT-SIDE ARC CLOCKWISE ARROWaLEFT-SIDE ARC ANTICLOCKWISE ARROW",
    "aTOP ARC ANTICLOCKWISE ARROWaBOTTOM ARC ANTICLOCKWISE ARROW",
    "aTOP ARC CLOCKWISE ARROW WITH MINUScANTICLOCKWISE ARROW WITH PLUS",
    "aLOWER RIGHT SEMICIRCULAR CLOCKWISE ARROWbLEFT SEMICIRCULAR ANTICLOCKWISE ARROW",
    "aANTICLOCKWISE CLOSED CIRCLE ARROWaCLOCKWISE CLOSED CIRCLE ARROW",
    "aRIGHTWARDS ARROW ABOVE SHORT LEFTWARDS ARROWaLEFTWARDS ARROW ABOVE SHORT RIGHTWARDS ARROW",
    "aSHORT RIGHTWARDS ARROW ABOVE LEFTWARDS ARROWaRIGHTWARDS ARROW WITH PLUS BELOW",
    "aLEFTWARDS ARROW WITH PLUS BELOWaRIGHTWARDS ARROW THROUGH X",
    "aLEFT RIGHT ARROW THROUGH SMALL CIRCLEaUPWARDS TWO-HEADED ARROW FROM SMALL CIRCLE",
    "aLEFT BARB UP RIGHT BARB DOWN HARPOONcDOWN RIGHT BARB UP HARPOON",
    "aUP BARB RIGHT DOWN BARB LEFT HARPOONcLEFT DOWN BARB RIGHT HARPOON",
    "aLEFT BARB UP RIGHT BARB UP HARPOONaUP BARB RIGHT DOWN BARB RIGHT HARPOON",
    "aLEFT BARB DOWN RIGHT BARB DOWN HARPOONaUP BARB LEFT DOWN BARB LEFT HARPOON",
    "aLEFTWARDS HARPOON WITH BARB UP TO BARaRIGHTWARDS HARPOON WITH BARB UP TO BAR",
    "aUPWARDS HARPOON WITH BARB RIGHT TO BARaDOWNWARDS HARPOON WITH BARB RIGHT TO BAR",
    "aLEFTWARDS HARPOON WITH BARB DOWN TO BARaRIGHTWARDS HARPOON WITH BARB DOWN TO BAR",
    "aUPWARDS HARPOON WITH BARB LEFT TO BARaDOWNWARDS HARPOON WITH BARB LEFT TO BAR",
    "aLEFTWARDS HARPOON WITH BARB UP FROM BARaRIGHTWARDS HARPOON WITH BARB UP FROM BAR",
    "aUPWARDS HARPOON WITH BARB RIGHT FROM BARaDOWNWARDS HARPOON WITH BARB RIGHT FROM BAR",
    "aLEFTWARDS HARPOON WITH BARB DOWN FROM BARaRIGHTWARDS HARPOON WITH BARB DOWN FROM BAR",
    "aUPWARDS HARPOON WITH BARB LEFT FROM BARaDOWNWARDS HARPOON WITH BARB LEFT FROM BAR",
    "aLEFTWARDS HARPOON WITH BARB UP ABOVE LEFTWARDS HARPOON WITH BARB DOWN",
    "aUPWARDS HARPOON WITH BARB LEFT BESIDE UPWARDS HARPOON WITH BARB RIGHT",
    "aRIGHTWARDS HARPOON WITH BARB UP ABOVE RIGHTWARDS HARPOON WITH BARB DOWN",
    "aDOWNWARDS HARPOON WITH BARB LEFT BESIDE DOWNWARDS HARPOON WITH BARB RIGHT",
    "aLEFTWARDS HARPOON WITH BARB UP ABOVE RIGHTWARDS HARPOON WITH BARB UP",
    "eDOWN ABOVE RIGHTWARDS HARPOON WITH BARB DOWN",
    "aRIGHTWARDS HARPOON WITH BARB UP ABOVE LEFTWARDS HARPOON WITH BARB UP",
    "eDOWN ABOVE LEFTWARDS HARPOON WITH BARB DOWNaLEFTWARDS HARPOON WITH BARB UP ABOVE LONG DASH",
    "eDOWN BELOW LONG DASHaRIGHTWARDS HARPOON WITH BARB UP ABOVE LONG DASHeDOWN BELOW LONG DASH",
    "aUPWARDS HARPOON WITH BARB LEFT BESIDE DOWNWARDS HARPOON WITH BARB RIGHT",
    "aDOWNWARDS HARPOON WITH BARB LEFT BESIDE UPWARDS HARPOON WITH BARB RIGHT",
    "aRIGHT DOUBLE ARROW WITH ROUNDED HEADaEQUALS SIGN ABOVE RIGHTWARDS ARROW",
    "aTILDE OPERATOR ABOVE RIGHTWARDS ARROWaLEFTWARDS ARROW ABOVE TILDE OPERATOR",
    "aRIGHTWARDS ARROW ABOVE TILDE OPERATORdALMOST EQUAL TOaLESS-THAN ABOVE LEFTWARDS ARROW",
    "aLEFTWARDS ARROW THROUGH LESS-THANaGREATER-THAN ABOVE RIGHTWARDS ARROW",
    "aSUBSET ABOVE RIGHTWARDS ARROWaLEFTWARDS ARROW THROUGH SUBSET",
    "aSUPERSET ABOVE LEFTWARDS ARROWaLEFT FISH TAILaRIGHT FISH TAILaUP FISH TAILaDOWN FISH TAIL",
    "aTRIPLE VERTICAL BAR DELIMITERaZ NOTATION SPOTcTYPE COLONaLEFT WHITE CURLY BRACKET",
    "aRIGHT WHITE CURLY BRACKETaLEFT WHITE PARENTHESISaRIGHT WHITE PARENTHESIS",
    "aZ NOTATION LEFT IMAGE BRACKETcRIGHT IMAGE BRACKETcLEFT BINDING BRACKET",
    "cRIGHT BINDING BRACKETaLEFT SQUARE BRACKET WITH UNDERBARaRIGHT SQUARE BRACKET WITH UNDERBAR",
    "aLEFT SQUARE BRACKET WITH TICK IN TOP CORNER",
    "aRIGHT SQUARE BRACKET WITH TICK IN BOTTOM CORNER",
    "aLEFT SQUARE BRACKET WITH TICK IN BOTTOM CORNER",
    "aRIGHT SQUARE BRACKET WITH TICK IN TOP CORNERaLEFT ANGLE BRACKET WITH DOT",
    "aRIGHT ANGLE BRACKET WITH DOTaLEFT ARC LESS-THAN BRACKETaRIGHT ARC GREATER-THAN BRACKET",
    "aDOUBLE LEFT ARC GREATER-THAN BRACKETbRIGHT ARC LESS-THAN BRACKET",
    "aLEFT BLACK TORTOISE SHELL BRACKETaRIGHT BLACK TORTOISE SHELL BRACKETaDOTTED FENCE",
    "aVERTICAL ZIGZAG LINEaMEASURED ANGLE OPENING LEFTaRIGHT ANGLE VARIANT WITH SQUARE",
    "aMEASURED RIGHT ANGLE WITH DOTaANGLE WITH S INSIDEaACUTE ANGLEaSPHERICAL ANGLE OPENING LEFT",
    "dUPaTURNED ANGLEaREVERSED ANGLEaANGLE WITH UNDERBARaREVERSED ANGLE WITH UNDERBAR",
    "aOBLIQUE ANGLE OPENING UPdDOWN",
    "aMEASURED ANGLE WITH OPEN ARM ENDING IN ARROW POINTING UP AND RIGHTlLEFTjDOWN AND RIGHT",
    "lLEFTjRIGHT AND UPjLEFT AND UPjRIGHT AND DOWNjLEFT AND DOWNaREVERSED EMPTY SET",
    "aEMPTY SET WITH OVERBARdSMALL CIRCLE ABOVEdRIGHT ARROW ABOVEdLEFT ARROW ABOVE",
    "aCIRCLE WITH HORIZONTAL BARaCIRCLED VERTICAL BARbPARALLELbREVERSE SOLIDUSbPERPENDICULAR",
    "aCIRCLE DIVIDED BY HORIZONTAL BAR AND TOP HALF DIVIDED BY VERTICAL BARbWITH SUPERIMPOSED X",
    "aCIRCLED ANTICLOCKWISE-ROTATED DIVISION SIGNaUP ARROW THROUGH CIRCLEaCIRCLED WHITE BULLET",
    "bBULLETbLESS-THANbGREATER-THANaCIRCLE WITH SMALL CIRCLE TO THE RIGHT",
    "cTWO HORIZONTAL STROKES TO THE RIGHTaSQUARED RISING DIAGONAL SLASHbFALLING DIAGONAL SLASH",
    "bASTERISKbSMALL CIRCLEbSQUAREaTWO JOINED SQUARESaTRIANGLE WITH DOT ABOVEcUNDERBAR",
    "aS IN TRIANGLEaTRIANGLE WITH SERIFS AT BOTTOMaRIGHT TRIANGLE ABOVE LEFT TRIANGLE",
    "aLEFT TRIANGLE BESIDE VERTICAL BARaVERTICAL BAR BESIDE RIGHT TRIANGLE",
    "aBOWTIE WITH LEFT HALF BLACKcRIGHT HALF BLACKaBLACK BOWTIEaTIMES WITH LEFT HALF BLACK",
    "cRIGHT HALF BLACKaWHITE HOURGLASSaBLACK HOURGLASSaLEFT WIGGLY FENCEaRIGHT WIGGLY FENCE",
    "aLEFT DOUBLE WIGGLY FENCEaRIGHT DOUBLE WIGGLY FENCEaINCOMPLETE INFINITYaTIE OVER INFINITY",
    "aINFINITY NEGATED WITH VERTICAL BARaDOUBLE-ENDED MULTIMAPaSQUARE WITH CONTOURED OUTLINE",
    "aINCREASES ASaSHUFFLE PRODUCTaEQUALS SIGN AND SLANTED PARALLELePARALLEL WITH TILDE ABOVE",
    "aIDENTICAL TO AND SLANTED PARALLELaGLEICH STARKaTHERMODYNAMIC",
    "aDOWN-POINTING TRIANGLE WITH LEFT HALF BLACKeRIGHT HALF BLACKaBLACK DIAMOND WITH DOWN ARROW",
    "bLOZENGEaWHITE CIRCLE WITH DOWN ARROWaBLACK CIRCLE WITH DOWN ARROW",
    "aERROR-BARRED WHITE SQUAREcBLACK SQUAREcWHITE DIAMONDcBLACK DIAMONDcWHITE CIRCLE",
    "cBLACK CIRCLEaRULE-DELAYEDaREVERSE SOLIDUS OPERATORaSOLIDUS WITH OVERBAR",
    "aREVERSE SOLIDUS WITH HORIZONTAL STROKEaBIG SOLIDUSbREVERSE SOLIDUSaDOUBLE PLUSaTRIPLE PLUS",
    "aLEFT-POINTING CURVED ANGLE BRACKETaRIGHT-POINTING CURVED ANGLE BRACKETaTINYaMINY"]⟩,
  ⟨0x2A00, [
    "aN-ARY CIRCLED DOT OPERATORdPLUS OPERATORdTIMES OPERATORcUNION OPERATOR WITH DOTfPLUS",
    "cSQUARE INTERSECTION OPERATORdUNION OPERATORaTWO LOGICAL AND OPERATORcOR OPERATOR",
    "aN-ARY TIMES OPERATORaMODULO TWO SUMaSUMMATION WITH INTEGRALaQUADRUPLE INTEGRAL OPERATOR",
    "aFINITE PART INTEGRALaINTEGRAL WITH DOUBLE STROKEbAVERAGE WITH SLASHaCIRCULATION FUNCTION",
    "aANTICLOCKWISE INTEGRATIONaLINE INTEGRATION WITH RECTANGULAR PATH AROUND POLE",
    "dSEMICIRCULAR PATH AROUND POLEcNOT INCLUDING THE POLEaINTEGRAL AROUND A POINT OPERATOR",
    "aQUATERNION INTEGRAL OPERATORaINTEGRAL WITH LEFTWARDS ARROW WITH HOOKcTIMES SIGN",
    "cINTERSECTIONcUNIONcOVERBARcUNDERBARaJOINaLARGE LEFT TRIANGLE OPERATOR",
    "aZ NOTATION SCHEMA COMPOSITIONdPIPINGdPROJECTIONaPLUS SIGN WITH SMALL CIRCLE ABOVE",
    "dCIRCUMFLEX ACCENT ABOVEdTILDE ABOVEdDOT BELOWdTILDE BELOWdSUBSCRIPT TWOdBLACK TRIANGLE",
    "aMINUS SIGN WITH COMMA ABOVEdDOT BELOWdFALLING DOTSdRISING DOTS",
    "aPLUS SIGN IN LEFT HALF CIRCLEdRIGHT HALF CIRCLEaVECTOR OR CROSS PRODUCT",
    "aMULTIPLICATION SIGN WITH DOT ABOVEdUNDERBARaSEMIDIRECT PRODUCT WITH BOTTOM CLOSED",
    "aSMASH PRODUCTaMULTIPLICATION SIGN IN LEFT HALF CIRCLEdRIGHT HALF CIRCLE",
    "aCIRCLED MULTIPLICATION SIGN WITH CIRCUMFLEX ACCENTaMULTIPLICATION SIGN IN DOUBLE CIRCLE",
    "aCIRCLED DIVISION SIGNaPLUS SIGN IN TRIANGLEaMINUS SIGN IN TRIANGLE",
    "aMULTIPLICATION SIGN IN TRIANGLEaINTERIOR PRODUCTaRIGHTHAND INTERIOR PRODUCT",
    "aZ NOTATION RELATIONAL COMPOSITIONaAMALGAMATION OR COPRODUCTaINTERSECTION WITH DOT",
    "aUNION WITH MINUS SIGNcOVERBARaINTERSECTION WITH OVERBARcLOGICAL ANDaUNION WITH LOGICAL OR",
    "bABOVE INTERSECTIONaINTERSECTION ABOVE UNIONaUNION ABOVE BAR ABOVE INTERSECTION",
    "aINTERSECTION ABOVE BAR ABOVE UNIONaUNION BESIDE AND JOINED WITH UNION",
    "aINTERSECTION BESIDE AND JOINED WITH INTERSECTIONaCLOSED UNION WITH SERIFS",
    "bINTERSECTION WITH SERIFSaDOUBLE SQUARE INTERSECTIONcUNION",
    "aCLOSED UNION WITH SERIFS AND SMASH PRODUCTaLOGICAL AND WITH DOT ABOVEbOR WITH DOT ABOVE",
    "aDOUBLE LOGICAL ANDcORaTWO INTERSECTING LOGICAL ANDdORaSLOPING LARGE ORcAND",
    "aLOGICAL OR OVERLAPPING LOGICAL ANDbAND WITH MIDDLE STEMbOR WITH MIDDLE STEM",
    "bAND WITH HORIZONTAL DASHbOR WITH HORIZONTAL DASHbAND WITH DOUBLE OVERBARdUNDERBAR",
    "dDOUBLE UNDERBARaSMALL VEE WITH UNDERBARaLOGICAL OR WITH DOUBLE OVERBAReUNDERBAR",
    "aZ NOTATION DOMAIN ANTIRESTRICTIONcRANGE ANTIRESTRICTIONaEQUALS SIGN WITH DOT BELOW",
    "aIDENTICAL WITH DOT ABOVEaTRIPLE HORIZONTAL BAR WITH DOUBLE VERTICAL STROKE",
    "eTRIPLE VERTICAL STROKEaTILDE OPERATOR WITH DOT ABOVEdRISING DOTSaSIMILAR MINUS SIMILAR",
    "aCONGRUENT WITH DOT ABOVEaEQUALS WITH ASTERISKaALMOST EQUAL TO WITH CIRCUMFLEX ACCENT",
    "aAPPROXIMATELY EQUAL OR EQUAL TOaEQUALS SIGN ABOVE PLUS SIGNaPLUS SIGN ABOVE EQUALS SIGN",
    "aEQUALS SIGN ABOVE TILDE OPERATORaDOUBLE COLON EQUALaTWO CONSECUTIVE EQUALS SIGNS",
    "aTHREE CONSECUTIVE EQUALS SIGNSaEQUALS SIGN WITH TWO DOTS ABOVE AND TWO DOTS BELOW",
    "aEQUIVALENT WITH FOUR DOTS ABOVEaLESS-THAN WITH CIRCLE INSIDE",
    "aGREATER-THAN WITH CIRCLE INSIDEaLESS-THAN WITH QUESTION MARK ABOVE",
    "aGREATER-THAN WITH QUESTION MARK ABOVEaLESS-THAN OR SLANTED EQUAL TO",
    "aGREATER-THAN OR SLANTED EQUAL TOaLESS-THAN OR SLANTED EQUAL TO WITH DOT INSIDE",
    "aGREATER-THAN OR SLANTED EQUAL TO WITH DOT INSIDE",
    "aLESS-THAN OR SLANTED EQUAL TO WITH DOT ABOVE",
    "aGREATER-THAN OR SLANTED EQUAL TO WITH DOT ABOVE",
    "aLESS-THAN OR SLANTED EQUAL TO WITH DOT ABOVE RIGHT",
    "aGREATER-THAN OR SLANTED EQUAL TO WITH DOT ABOVE LEFTaLESS-THAN OR APPROXIMATE",
    "aGREATER-THAN OR APPROXIMATEaLESS-THAN AND SINGLE-LINE NOT EQUAL TO",
    "aGREATER-THAN AND SINGLE-LINE NOT EQUAL TOaLESS-THAN AND NOT APPROXIMATE",
    "aGREATER-THAN AND NOT APPROXIMATEaLESS-THAN ABOVE DOUBLE-LINE EQUAL ABOVE GREATER-THAN",
    "aGREATER-THAN ABOVE DOUBLE-LINE EQUAL ABOVE LESS-THANaLESS-THAN ABOVE SIMILAR OR EQUAL",
    "aGREATER-THAN ABOVE SIMILAR OR EQUALaLESS-THAN ABOVE SIMILAR ABOVE GREATER-THAN",
    "aGREATER-THAN ABOVE SIMILAR ABOVE LESS-THAN",
    "aLESS-THAN ABOVE GREATER-THAN ABOVE DOUBLE-LINE EQUAL",
    "aGREATER-THAN ABOVE LESS-THAN ABOVE DOUBLE-LINE EQUAL",
    "aLESS-THAN ABOVE SLANTED EQUAL ABOVE GREATER-THAN ABOVE SLANTED EQUAL",
    "aGREATER-THAN ABOVE SLANTED EQUAL ABOVE LESS-THAN ABOVE SLANTED EQUAL",
    "aSLANTED EQUAL TO OR LESS-THANeGREATER-THANeLESS-THAN WITH DOT INSIDE",
    "eGREATER-THAN WITH DOT INSIDEaDOUBLE-LINE EQUAL TO OR LESS-THANfGREATER-THAN",
    "cSLANTED EQUAL TO OR LESS-THANgGREATER-THANaSIMILAR OR LESS-THANcGREATER-THAN",
    "bABOVE LESS-THAN ABOVE EQUALS SIGNcGREATER-THAN ABOVE EQUALS SIGNaDOUBLE NESTED LESS-THAN",
    "cGREATER-THANcLESS-THAN WITH UNDERBARaGREATER-THAN OVERLAPPING LESS-THANcBESIDE LESS-THAN",
    "aLESS-THAN CLOSED BY CURVEaGREATER-THAN CLOSED BY CURVE",
    "aLESS-THAN CLOSED BY CURVE ABOVE SLANTED EQUAL",
    "aGREATER-THAN CLOSED BY CURVE ABOVE SLANTED EQUALaSMALLER THANaLARGER THAN",
    "aSMALLER THAN OR EQUAL TOaLARGER THAN OR EQUAL TOaEQUALS SIGN WITH BUMPY ABOVE",
    "aPRECEDES ABOVE SINGLE-LINE EQUALS SIGNaSUCCEEDS ABOVE SINGLE-LINE EQUALS SIGN",
    "aPRECEDES ABOVE SINGLE-LINE NOT EQUAL TOaSUCCEEDS ABOVE SINGLE-LINE NOT EQUAL TO",
    "aPRECEDES ABOVE EQUALS SIGNaSUCCEEDS ABOVE EQUALS SIGNaPRECEDES ABOVE NOT EQUAL TO",
    "aSUCCEEDS ABOVE NOT EQUAL TOaPRECEDES ABOVE ALMOST EQUAL TOaSUCCEEDS ABOVE ALMOST EQUAL TO",
    "aPRECEDES ABOVE NOT ALMOST EQUAL TOaSUCCEEDS ABOVE NOT ALMOST EQUAL TOaDOUBLE PRECEDES",
    "bSUCCEEDSaSUBSET WITH DOTaSUPERSET WITH DOTaSUBSET WITH PLUS SIGN BELOW",
    "aSUPERSET WITH PLUS SIGN BELOWaSUBSET WITH MULTIPLICATION SIGN BELOW",
    "aSUPERSET WITH MULTIPLICATION SIGN BELOWaSUBSET OF OR EQUAL TO WITH DOT ABOVE",
    "aSUPERSET OF OR EQUAL TO WITH DOT ABOVEaSUBSET OF ABOVE EQUALS SIGN",
    "aSUPERSET OF ABOVE EQUALS SIGNaSUBSET OF ABOVE TILDE OPERATOR",
    "aSUPERSET OF ABOVE TILDE OPERATORaSUBSET OF ABOVE ALMOST EQUAL TO",
    "aSUPERSET OF ABOVE ALMOST EQUAL TOaSUBSET OF ABOVE NOT EQUAL TO",
    "aSUPERSET OF ABOVE NOT EQUAL TOaSQUARE LEFT OPEN BOX OPERATORbRIGHT OPEN BOX OPERATOR",
    "aCLOSED SUBSETbSUPERSETbSUBSET OR EQUAL TObSUPERSET OR EQUAL TOaSUBSET ABOVE SUPERSET",
    "aSUPERSET ABOVE SUBSETaSUBSET ABOVE SUBSETaSUPERSET ABOVE SUPERSETbBESIDE SUBSET",
    "cAND JOINED BY DASH WITH SUBSETaELEMENT OF OPENING DOWNWARDSaPITCHFORK WITH TEE TOP",
    "aTRANSVERSAL INTERSECTIONaFORKINGaNONFORKINGaSHORT LEFT TACKbDOWN TACKbUP TACK",
    "aPERPENDICULAR WITH SaVERTICAL BAR TRIPLE RIGHT TURNSTILE",
    "aDOUBLE VERTICAL BAR LEFT TURNSTILEaVERTICAL BAR DOUBLE LEFT TURNSTILE",
    "aDOUBLE VERTICAL BAR DOUBLE LEFT TURNSTILEaLONG DASH FROM LEFT MEMBER OF DOUBLE VERTICAL",
    "aSHORT DOWN TACK WITH OVERBARbUP TACK WITH UNDERBARdABOVE SHORT DOWN TACKaDOUBLE DOWN TACK",
    "bUP TACKbSTROKE NOT SIGNaREVERSED DOUBLE STROKE NOT SIGN",
    "aDOES NOT DIVIDE WITH REVERSED NEGATION SLASHaVERTICAL LINE WITH CIRCLE ABOVEeBELOW",
    "aDOWN TACK WITH CIRCLE BELOWaPARALLEL WITH HORIZONTAL STROKEcTILDE OPERATOR",
    "aTRIPLE VERTICAL BAR BINARY RELATIONdWITH HORIZONTAL STROKEbCOLON OPERATORbNESTED LESS-THAN",
    "cGREATER-THANaDOUBLE-LINE SLANTED LESS-THAN OR EQUAL TOdGREATER-THAN OR EQUAL TO",
    "aTRIPLE SOLIDUS BINARY RELATIONaLARGE TRIPLE VERTICAL BAR OPERATORaDOUBLE SOLIDUS OPERATOR",
    "aWHITE VERTICAL BARaN-ARY WHITE VERTICAL BAR"]⟩,
  ⟨0x2B00, [
    "aNORTH EAST WHITE ARROWbWEST WHITE ARROWaSOUTH EAST WHITE ARROWbWEST WHITE ARROW",
    "aLEFT RIGHT WHITE ARROWaLEFTWARDS BLACK ARROWaUPWARDS BLACK ARROWaDOWNWARDS BLACK ARROW",
    "aNORTH EAST BLACK ARROWbWEST BLACK ARROWaSOUTH EAST BLACK ARROWbWEST BLACK ARROW",
    "aLEFT RIGHT BLACK ARROWaUP DOWN BLACK ARROWaRIGHTWARDS ARROW WITH TIP DOWNWARDSeUPWARDS",
    "aLEFTWARDS ARROW WITH TIP DOWNWARDSeUPWARDSaSQUARE WITH TOP HALF BLACKcBOTTOM HALF BLACK",
    "cUPPER RIGHT DIAGONAL HALF BLACKcLOWER LEFT DIAGONAL HALF BLACK",
    "aDIAMOND WITH LEFT HALF BLACKcRIGHT HALF BLACKcTOP HALF BLACKcBOTTOM HALF BLACK",
    "aDOTTED SQUAREaBLACK LARGE SQUAREaWHITE LARGE SQUAREaBLACK VERY SMALL SQUARE",
    "aWHITE VERY SMALL SQUAREaBLACK PENTAGONaWHITE PENTAGONbHEXAGONaBLACK HEXAGON",
    "aHORIZONTAL BLACK HEXAGONaBLACK LARGE CIRCLEbMEDIUM DIAMONDaWHITE MEDIUM DIAMOND",
    "aBLACK MEDIUM LOZENGEaWHITE MEDIUM LOZENGEaBLACK SMALL DIAMONDcLOZENGEaWHITE SMALL LOZENGE",
    "aBLACK HORIZONTAL ELLIPSEaWHITE HORIZONTAL ELLIPSEaBLACK VERTICAL ELLIPSE",
    "aWHITE VERTICAL ELLIPSEaLEFT ARROW WITH SMALL CIRCLEaTHREE LEFTWARDS ARROWS",
    "aLEFT ARROW WITH CIRCLED PLUSaLONG LEFTWARDS SQUIGGLE ARROW",
    "aLEFTWARDS TWO-HEADED ARROW WITH VERTICAL STROKEfDOUBLE VERTICAL STROKEeFROM BAR",
    "dTRIPLE DASH ARROWbARROW WITH DOTTED STEMdTAIL WITH VERTICAL STROKEfDOUBLE VERTICAL STROKE",
    "bTWO-HEADED ARROW WITH TAILfTAIL WITH VERTICAL STROKEhDOUBLE VERTICAL STROKE",
    "bARROW THROUGH XaWAVE ARROW POINTING DIRECTLY LEFTaEQUALS SIGN ABOVE LEFTWARDS ARROW",
    "aREVERSE TILDE OPERATOR ABOVE LEFTWARDS ARROWaLEFTWARDS ARROW ABOVE REVERSE ALMOST EQUAL TO",
    "aRIGHTWARDS ARROW THROUGH GREATER-THANdSUPERSETaLEFTWARDS QUADRUPLE ARROW",
    "aRIGHTWARDS QUADRUPLE ARROWaREVERSE TILDE OPERATOR ABOVE RIGHTWARDS ARROW",
    "aRIGHTWARDS ARROW ABOVE REVERSE ALMOST EQUAL TOaTILDE OPERATOR ABOVE LEFTWARDS ARROW",
    "aLEFTWARDS ARROW ABOVE ALMOST EQUAL TOdREVERSE TILDE OPERATOR",
    "aRIGHTWARDS ARROW ABOVE REVERSE TILDE OPERATORaDOWNWARDS TRIANGLE-HEADED ZIGZAG ARROW",
    "aSHORT SLANTED NORTH ARROWbBACKSLANTED SOUTH ARROWaWHITE MEDIUM STARaBLACK SMALL STAR",
    "aWHITE SMALL STARaBLACK RIGHT-POINTING PENTAGONaWHITE RIGHT-POINTING PENTAGON",
    "aHEAVY LARGE CIRCLEbOVAL WITH OVAL INSIDEbCIRCLE WITH CIRCLE INSIDEbCIRCLEbCIRCLED SALTIRE",
    "aSLANTED NORTH ARROW WITH HOOKED HEADaBACKSLANTED SOUTH ARROW WITH HOOKED TAIL",
    "aSLANTED NORTH ARROW WITH HORIZONTAL TAILaBACKSLANTED SOUTH ARROW WITH HORIZONTAL TAIL",
    "aBENT ARROW POINTING DOWNWARDS THEN NORTH EAST",
    "aSHORT BENT ARROW POINTING DOWNWARDS THEN NORTH EASTaLEFTWARDS TRIANGLE-HEADED ARROW",
    "aUPWARDS TRIANGLE-HEADED ARROWaRIGHTWARDS TRIANGLE-HEADED ARROW",
    "aDOWNWARDS TRIANGLE-HEADED ARROWaLEFT RIGHT TRIANGLE-HEADED ARROW",
    "aUP DOWN TRIANGLE-HEADED ARROWaNORTH WEST TRIANGLE-HEADED ARROWbEAST TRIANGLE-HEADED ARROW",
    "aSOUTH EAST TRIANGLE-HEADED ARROWbWEST TRIANGLE-HEADED ARROW",
    "aLEFTWARDS TRIANGLE-HEADED DASHED ARROWaUPWARDS TRIANGLE-HEADED DASHED ARROW",
    "aRIGHTWARDS TRIANGLE-HEADED DASHED ARROWaDOWNWARDS TRIANGLE-HEADED DASHED ARROW",
    "aCLOCKWISE TRIANGLE-HEADED OPEN CIRCLE ARROW",
    "aANTICLOCKWISE TRIANGLE-HEADED OPEN CIRCLE ARROWaLEFTWARDS TRIANGLE-HEADED ARROW TO BAR",
    "aUPWARDS TRIANGLE-HEADED ARROW TO BARaRIGHTWARDS TRIANGLE-HEADED ARROW TO BAR",
    "aDOWNWARDS TRIANGLE-HEADED ARROW TO BAR..aNORTH WEST TRIANGLE-HEADED ARROW TO BAR",
    "bEAST TRIANGLE-HEADED ARROW TO BARaSOUTH EAST TRIANGLE-HEADED ARROW TO BAR",
    "bWEST TRIANGLE-HEADED ARROW TO BAR",
    "aLEFTWARDS TRIANGLE-HEADED ARROW WITH DOUBLE HORIZONTAL STROKE",
    "aUPWARDS TRIANGLE-HEADED ARROW WITH DOUBLE HORIZONTAL STROKE",
    "aRIGHTWARDS TRIANGLE-HEADED ARROW WITH DOUBLE HORIZONTAL STROKE",
    "aDOWNWARDS TRIANGLE-HEADED ARROW WITH DOUBLE HORIZONTAL STROKEaHORIZONTAL TAB KEY",
    "aVERTICAL TAB KEYaLEFTWARDS TRIANGLE-HEADED ARROW OVER RIGHTWARDS TRIANGLE-HEADED ARROW",
    "aUPWARDS TRIANGLE-HEADED ARROW LEFTWARDS OF DOWNWARDS TRIANGLE-HEADED ARROW",
    "aRIGHTWARDS TRIANGLE-HEADED ARROW OVER LEFTWARDS TRIANGLE-HEADED ARROW",
    "aDOWNWARDS TRIANGLE-HEADED ARROW LEFTWARDS OF UPWARDS TRIANGLE-HEADED ARROW",
    "aLEFTWARDS TRIANGLE-HEADED PAIRED ARROWSaUPWARDS TRIANGLE-HEADED PAIRED ARROWS",
    "aRIGHTWARDS TRIANGLE-HEADED PAIRED ARROWSaDOWNWARDS TRIANGLE-HEADED PAIRED ARROWS",
    "aLEFTWARDS BLACK CIRCLED WHITE ARROWaUPWARDS BLACK CIRCLED WHITE ARROW",
    "aRIGHTWARDS BLACK CIRCLED WHITE ARROWaDOWNWARDS BLACK CIRCLED WHITE ARROW",
    "aANTICLOCKWISE TRIANGLE-HEADED RIGHT U-SHAPED ARROWdBOTTOM U-SHAPED ARROW",
    "dLEFT U-SHAPED ARROWdTOP U-SHAPED ARROWaRETURN LEFTbRIGHTaNEWLINE LEFTbRIGHT",
    "aFOUR CORNER ARROWS CIRCLING ANTICLOCKWISEaRIGHTWARDS BLACK ARROW.",
    "aSYMBOL FOR TYPE A ELECTRONICSaTHREE-D TOP-LIGHTED LEFTWARDS EQUILATERAL ARROWHEAD",
    "cRIGHT-LIGHTED UPWARDS EQUILATERAL ARROWHEADcTOP-LIGHTED RIGHTWARDS EQUILATERAL ARROWHEAD",
    "cLEFT-LIGHTED DOWNWARDS EQUILATERAL ARROWHEADaBLACK LEFTWARDS EQUILATERAL ARROWHEAD",
    "bUPWARDS EQUILATERAL ARROWHEADbRIGHTWARDS EQUILATERAL ARROWHEAD",
    "bDOWNWARDS EQUILATERAL ARROWHEADaDOWNWARDS TRIANGLE-HEADED ARROW WITH LONG TIP LEFTWARDS",
    "hRIGHTWARDSaUPWARDS TRIANGLE-HEADED ARROW WITH LONG TIP LEFTWARDShRIGHTWARDS",
    "aLEFTWARDS TRIANGLE-HEADED ARROW WITH LONG TIP UPWARDS",
    "aRIGHTWARDS TRIANGLE-HEADED ARROW WITH LONG TIP UPWARDS",
    "aLEFTWARDS TRIANGLE-HEADED ARROW WITH LONG TIP DOWNWARDS",
    "aRIGHTWARDS TRIANGLE-HEADED ARROW WITH LONG TIP DOWNWARDS",
    "aBLACK CURVED DOWNWARDS AND LEFTWARDS ARROWeRIGHTWARDS ARROWcUPWARDS AND LEFTWARDS ARROW",
    "eRIGHTWARDS ARROWcLEFTWARDS AND UPWARDS ARROWcRIGHTWARDS AND UPWARDS ARROW",
    "cLEFTWARDS AND DOWNWARDS ARROWcRIGHTWARDS AND DOWNWARDS ARROWaRIBBON ARROW DOWN LEFTdRIGHT",
    "cUP LEFTdRIGHTcLEFT UPcRIGHT UPcLEFT DOWNcRIGHT DOWN",
    "aUPWARDS WHITE ARROW FROM BAR WITH HORIZONTAL BARaUP ARROWHEAD IN A RECTANGLE BOX",
    "aOVERLAPPING WHITE SQUAREScAND BLACK SQUARESbBLACK SQUARESaBALLOT BOX WITH LIGHT X",
    "aCIRCLED XbBOLD XaBLACK SQUARE CENTREDbDIAMOND CENTREDaTURNED BLACK PENTAGON",
    "aHORIZONTAL BLACK OCTAGONaBLACK OCTAGONbMEDIUM UP-POINTING TRIANGLE CENTRED",
    "cDOWN-POINTING TRIANGLE CENTREDcLEFT-POINTING TRIANGLE CENTRED",
    "cRIGHT-POINTING TRIANGLE CENTREDaNEPTUNE FORM TWOaTOP HALF BLACK CIRCLE",
    "aBOTTOM HALF BLACK CIRCLEaLIGHT FOUR POINTED BLACK CUSP",
    "aROTATED LIGHT FOUR POINTED BLACK CUSPaWHITE FOUR POINTED CUSP",
    "aROTATED WHITE FOUR POINTED CUSPaSQUARE POSITION INDICATORaUNCERTAINTY SIGNaGROUP MARK",
    "aPLUTO FORM TWOcTHREEcFOURcFIVEaTRANSPLUTOaPROSERPINAaASTRAEAaHYGIEAaPHOLUSaNESSUS",
    "aWHITE MOON SELENAaBLACK DIAMOND ON CROSSaTRUE LIGHT MOON ARTAaCUPIDOaHADESaZEUSaKRONOS",
    "aAPOLLONaADMETOSaVULCANUSaPOSEIDONaLEFT HALF BLACK STARaRIGHT HALF BLACK STAR",
    "aSTAR WITH LEFT HALF BLACKcRIGHT HALF BLACK",
    "aLEFTWARDS TWO-HEADED ARROW WITH TRIANGLE ARROWHEADS",
    "aUPWARDS TWO-HEADED ARROW WITH TRIANGLE ARROWHEADS",
    "aRIGHTWARDS TWO-HEADED ARROW WITH TRIANGLE ARROWHEADS",
    "aDOWNWARDS TWO-HEADED ARROW WITH TRIANGLE ARROWHEADSaERIS FORM ONEcTWOaSEDNA",
    "aRUSSIAN ASTROLOGICAL SYMBOL VIGINTILEdNOVILEdQUINTILEdBINOVILEdSENTAGONdTREDECILE",
    "aEQUALS SIGN WITH INFINITY BELOWaUNITED SYMBOLaSEPARATED SYMBOLaDOUBLED SYMBOL",
    "aPASSED SYMBOLaREVERSED RIGHT ANGLEaHELLSCHREIBER PAUSE SYMBOL"]⟩,
  ⟨0x2C00, [
    "aGLAGOLITIC CAPITAL LETTER AZUdBUKYdVEDEdGLAGOLIdDOBROdYESTUdZHIVETEdDZELOdZEMLJAdIZHE",
    "dINITIAL IZHEdIdDJERVIdKAKOdLJUDIJEdMYSLITEdNASHIdONUdPOKOJIdRITSIdSLOVOdTVRIDOdUKUdFRITU",
    "dHERUdOTUdPEdSHTAdTSIdCHRIVIdSHAdYERUdYERIdYATIdSPIDERY HAdYUdSMALL YUSeYUS WITH TAILdYO",
    "dIOTATED SMALL YUSdBIG YUSdIOTATED BIG YUSdFITAdIZHITSAdSHTAPICdTROKUTASTI A",
    "dLATINATE MYSLITEdCAUDATE CHRIVIbSMALL LETTER AZUdBUKYdVEDEdGLAGOLIdDOBROdYESTUdZHIVETE",
    "dDZELOdZEMLJAdIZHEdINITIAL IZHEdIdDJERVIdKAKOdLJUDIJEdMYSLITEdNASHIdONUdPOKOJIdRITSIdSLOVO",
    "dTVRIDOdUKUdFRITUdHERUdOTUdPEdSHTAdTSIdCHRIVIdSHAdYERUdYERIdYATIdSPIDERY HAdYUdSMALL YUS",
    "eYUS WITH TAILdYOdIOTATED SMALL YUSdBIG YUSdIOTATED BIG YUSdFITAdIZHITSAdSHTAPIC",
    "dTROKUTASTI AdLATINATE MYSLITEdCAUDATE CHRIVIaLATIN CAPITAL LETTER L WITH DOUBLE BAR",
    "bSMALL LETTER L WITH DOUBLE BARbCAPITAL LETTER L WITH MIDDLE TILDEdP WITH STROKE",
    "dR WITH TAILbSMALL LETTER A WITH STROKEdT WITH DIAGONAL STROKE",
    "bCAPITAL LETTER H WITH DESCENDERbSMALL LETTER H WITH DESCENDER",
    "bCAPITAL LETTER K WITH DESCENDERbSMALL LETTER K WITH DESCENDER",
    "bCAPITAL LETTER Z WITH DESCENDERbSMALL LETTER Z WITH DESCENDERbCAPITAL LETTER ALPHA",
    "dM WITH HOOKdTURNED AeALPHAbSMALL LETTER V WITH RIGHT HOOKbCAPITAL LETTER W WITH HOOK",
    "bSMALL LETTER W WITH HOOKdV WITH CURLbCAPITAL LETTER HALF HbSMALL LETTER HALF H",
    "dTAILLESS PHIdE WITH NOTCHdTURNED R WITH TAILdO WITH LOW RING INSIDE",
    "bLETTER SMALL CAPITAL TURNED EbSUBSCRIPT SMALL LETTER JaMODIFIER LETTER CAPITAL V",
    "aLATIN CAPITAL LETTER S WITH SWASH TAILdZ WITH SWASH TAILaCOPTIC CAPITAL LETTER ALFA",
    "bSMALL LETTER ALFAbCAPITAL LETTER VIDAbSMALL LETTER VIDAbCAPITAL LETTER GAMMA",
    "bSMALL LETTER GAMMAbCAPITAL LETTER DALDAbSMALL LETTER DALDAbCAPITAL LETTER EIE",
    "bSMALL LETTER EIEbCAPITAL LETTER SOUbSMALL LETTER SOUbCAPITAL LETTER ZATAbSMALL LETTER ZATA",
    "bCAPITAL LETTER HATEbSMALL LETTER HATEbCAPITAL LETTER THETHEbSMALL LETTER THETHE",
    "bCAPITAL LETTER IAUDAbSMALL LETTER IAUDAbCAPITAL LETTER KAPAbSMALL LETTER KAPA",
    "bCAPITAL LETTER LAULAbSMALL LETTER LAULAbCAPITAL LETTER MIbSMALL LETTER MI",
    "bCAPITAL LETTER NIbSMALL LETTER NIbCAPITAL LETTER KSIbSMALL LETTER KSIbCAPITAL LETTER O",
    "bSMALL LETTER ObCAPITAL LETTER PIbSMALL LETTER PIbCAPITAL LETTER RObSMALL LETTER RO",
    "bCAPITAL LETTER SIMAbSMALL LETTER SIMAbCAPITAL LETTER TAUbSMALL LETTER TAU",
    "bCAPITAL LETTER UAbSMALL LETTER UAbCAPITAL LETTER FIbSMALL LETTER FIbCAPITAL LETTER KHI",
    "bSMALL LETTER KHIbCAPITAL LETTER PSIbSMALL LETTER PSIbCAPITAL LETTER OOUbSMALL LETTER OOU",
    "bCAPITAL LETTER DIALECT-P ALEFbSMALL LETTER DIALECT-P ALEFbCAPITAL LETTER OLD COPTIC AIN",
    "bSMALL LETTER OLD COPTIC AINbCAPITAL LETTER CRYPTOGRAMMIC EIE",
    "bSMALL LETTER CRYPTOGRAMMIC EIEbCAPITAL LETTER DIALECT-P KAPAbSMALL LETTER DIALECT-P KAPA",
    "bCAPITAL LETTER DIALECT-P NIbSMALL LETTER DIALECT-P NIbCAPITAL LETTER CRYPTOGRAMMIC NI",
    "bSMALL LETTER CRYPTOGRAMMIC NIbCAPITAL LETTER OLD COPTIC OOUbSMALL LETTER OLD COPTIC OOU",
    "bCAPITAL LETTER SAMPIbSMALL LETTER SAMPIbCAPITAL LETTER CROSSED SHEI",
    "bSMALL LETTER CROSSED SHEIbCAPITAL LETTER OLD COPTIC SHEIbSMALL LETTER OLD COPTIC SHEI",
    "bCAPITAL LETTER OLD COPTIC ESHbSMALL LETTER OLD COPTIC ESHbCAPITAL LETTER AKHMIMIC KHEI",
    "bSMALL LETTER AKHMIMIC KHEIbCAPITAL LETTER DIALECT-P HORIbSMALL LETTER DIALECT-P HORI",
    "bCAPITAL LETTER OLD COPTIC HORIbSMALL LETTER OLD COPTIC HORIbCAPITAL LETTER OLD COPTIC HA",
    "bSMALL LETTER OLD COPTIC HAbCAPITAL LETTER L-SHAPED HAbSMALL LETTER L-SHAPED HA",
    "bCAPITAL LETTER OLD COPTIC HEIbSMALL LETTER OLD COPTIC HEIbCAPITAL LETTER OLD COPTIC HAT",
    "bSMALL LETTER OLD COPTIC HATbCAPITAL LETTER OLD COPTIC GANGIA",
    "bSMALL LETTER OLD COPTIC GANGIAbCAPITAL LETTER OLD COPTIC DJAbSMALL LETTER OLD COPTIC DJA",
    "bCAPITAL LETTER OLD COPTIC SHIMAbSMALL LETTER OLD COPTIC SHIMA",
    "bCAPITAL LETTER OLD NUBIAN SHIMAbSMALL LETTER OLD NUBIAN SHIMA",
    "bCAPITAL LETTER OLD NUBIAN NGIbSMALL LETTER OLD NUBIAN NGIbCAPITAL LETTER OLD NUBIAN NYI",
    "bSMALL LETTER OLD NUBIAN NYIbCAPITAL LETTER OLD NUBIAN WAUbSMALL LETTER OLD NUBIAN WAU",
    "bSYMBOL KAIcMI ROcPI ROcSTAUROScTAU ROcKHI ROcSHIMA SIMAbCAPITAL LETTER CRYPTOGRAMMIC SHEI",
    "bSMALL LETTER CRYPTOGRAMMIC SHEIbCAPITAL LETTER CRYPTOGRAMMIC GANGIA",
    "bSMALL LETTER CRYPTOGRAMMIC GANGIAbCOMBINING NI ABOVEcSPIRITUS ASPERdLENIS",
    "bCAPITAL LETTER BOHAIRIC KHEIbSMALL LETTER BOHAIRIC KHEI.....bOLD NUBIAN FULL STOP",
    "dDIRECT QUESTION MARKdINDIRECT QUESTION MARKdVERSE DIVIDERbFRACTION ONE HALFbFULL STOP",
    "bMORPHOLOGICAL DIVIDER"]⟩,
  ⟨0x2D00, [
    "aGEORGIAN SMALL LETTER ANdBANdGANdDONdENdVINdZENdTANdINdKANdLASdMANdNARdONdPARdZHARdRAEdSAN",
    "dTARdUNdPHARdKHARdGHANdQARdSHINdCHINdCANdJILdCILdCHARdXANdJHANdHAEdHEdHIEdWEdHARdHOE.dYN...",
    "..dAEN..aTIFINAGH LETTER YAcYABcYABHcYAGcYAGHHcBERBER ACADEMY YAJcYAJcYADcYADHcYADDcYADDH",
    "cYEYcYAFcYAKcTUAREG YAKcYAKHHcYAHcBERBER ACADEMY YAHcTUAREG YAHcYAHHcYAAcYAKHcTUAREG YAKH",
    "cYAQcTUAREG YAQcYIcYAZHcAHAGGAR YAZHcTUAREG YAZHcYALcYAMcYANcTUAREG YAGNdYANGcYAPcYUcYAR",
    "cYARRcYAGHcTUAREG YAGHcAYER YAGHcYAScYASScYASHcYATcYATHcYACHcYATTcYAVcYAWcYAYcYAZ",
    "cTAWELLEMET YAZcYAZZcYEcYO.......bMODIFIER LETTER LABIALIZATION MARKbSEPARATOR MARK........",
    "......bCONSONANT JOINERaETHIOPIC SYLLABLE LOAcMOAcROAcSOAcSHOAcBOAcTOAcCOAcNOAcNYOA",
    "cGLOTTAL OAcZOAcDOAcDDOAcJOAcTHOAcCHOAcPHOAcPOAcGGWAcGGWIcGGWEEcGGWE.........cSSAcSSUcSSI",
    "cSSAAcSSEEcSSEcSSO.cCCAcCCUcCCIcCCAAcCCEEcCCEcCCO.cZZAcZZUcZZIcZZAAcZZEEcZZEcZZO.cCCHAcCCHU",
    "cCCHIcCCHAAcCCHEEcCCHEcCCHO.cQYAcQYUcQYIcQYAAcQYEEcQYEcQYO.cKYAcKYUcKYIcKYAAcKYEEcKYEcKYO.",
    "cXYAcXYUcXYIcXYAAcXYEEcXYEcXYO.cGYAcGYUcGYIcGYAAcGYEEcGYEcGYO.aCOMBINING CYRILLIC LETTER BE",
    "dVEdGHEdDEdZHEdZEdKAdELdEMdENdOdPEdERdESdTEdHAdTSEdCHEdSHAdSHCHAdFITAdES-TEdAdIEdDJERV",
    "dMONOGRAPH UKdYATdYUdIOTIFIED AdLITTLE YUSdBIG YUSdIOTIFIED BIG YUS"]⟩]

end LogHarvest.Text.Table
